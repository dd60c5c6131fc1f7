import FieldSchema.Number.Shortest
import FieldSchema.Text.Blank
import FieldSchema.Text.DecimalDigit

/-! Number literals: an optional sign, a whole part without leading zeros, and an optional fraction
and exponent. A literal with neither of the last two is an integer. -/
namespace FieldSchema

structure NumberLiteral where
  negative : Bool
  whole : List Char
  fraction : Option (List Char)
  exponent : Option Int

namespace NumberLiteral

def natOfDigits (digits : List Char) : Nat :=
  digits.foldl (fun n c => n * 10 + (c.toNat - '0'.toNat)) 0

def isInteger (l : NumberLiteral) : Bool := l.fraction.isNone && l.exponent.isNone

def toInt (l : NumberLiteral) : Int :=
  if l.negative then -natOfDigits l.whole else natOfDigits l.whole

def toBinary64 (l : NumberLiteral) : Binary64 :=
  let fraction := l.fraction.getD []
  .ofDecimal l.negative (natOfDigits (l.whole ++ fraction)) (l.exponent.getD 0 - fraction.length)

def scanSign : List Char → Bool × List Char
  | '-' :: s => (true, s)
  | s => (false, s)

def scanDigits? (s : List Char) : Option (List Char × List Char) :=
  match s.takeWhile Char.isDigit with
  | [] => none
  | digits => some (digits, s.dropWhile Char.isDigit)

def scanWhole? : List Char → Option (List Char × List Char)
  | '0' :: s => some (['0'], s)
  | s => scanDigits? s

/-- A point counts only with a digit after it. -/
def scanFraction (s : List Char) : Option (List Char) × List Char :=
  match s with
  | '.' :: rest =>
    match scanDigits? rest with
    | some (digits, after) => (some digits, after)
    | none => (none, s)
  | _ => (none, s)

def scanExponentSign : List Char → Bool × List Char
  | '+' :: s => (false, s)
  | s => scanSign s

/-- An exponent mark counts only with digits after it and its sign. -/
def scanExponent (s : List Char) : Option Int × List Char :=
  match s with
  | e :: rest =>
    if e = 'e' ∨ e = 'E' then
      let (negative, unsigned) := scanExponentSign rest
      match scanDigits? unsigned with
      | some (digits, after) =>
        (some (if negative then -natOfDigits digits else natOfDigits digits), after)
      | none => (none, s)
    else (none, s)
  | [] => (none, s)

def scan? (s : List Char) : Option (NumberLiteral × List Char) := do
  let (negative, unsigned) := scanSign s
  let (whole, afterWhole) ← scanWhole? unsigned
  let (fraction, afterFraction) := scanFraction afterWhole
  let (exponent, rest) := scanExponent afterFraction
  return (⟨negative, whole, fraction, exponent⟩, rest)

theorem length_scanSign (s : List Char) : (scanSign s).2.length ≤ s.length := by
  unfold scanSign; split <;> simp

theorem length_scanDigits? {s digits rest : List Char} (h : scanDigits? s = some (digits, rest)) :
    rest.length < s.length := by
  have hs := List.takeWhile_append_dropWhile (p := Char.isDigit) (l := s)
  have hl := congrArg List.length hs
  rw [List.length_append] at hl
  unfold scanDigits? at h
  split at h
  · simp at h
  · rename_i hne
    obtain ⟨rfl, rfl⟩ := by simpa using h
    have := List.length_pos_iff.2 hne
    omega

theorem length_scanWhole? {s whole rest : List Char} (h : scanWhole? s = some (whole, rest)) :
    rest.length < s.length := by
  unfold scanWhole? at h
  split at h
  · obtain ⟨rfl, rfl⟩ := by simpa using h
    simp
  · exact length_scanDigits? h

theorem length_scanFraction (s : List Char) : (scanFraction s).2.length ≤ s.length := by
  unfold scanFraction
  split
  · split
    · rename_i h
      have := length_scanDigits? h
      simp; omega
    · simp
  · simp

theorem length_scanExponentSign (s : List Char) : (scanExponentSign s).2.length ≤ s.length := by
  unfold scanExponentSign
  split
  · simp
  · exact length_scanSign _

theorem length_scanExponent (s : List Char) : (scanExponent s).2.length ≤ s.length := by
  unfold scanExponent
  split
  next e rest =>
    have hr := length_scanExponentSign rest
    split
    · dsimp only
      split
      · rename_i h
        have := length_scanDigits? h
        simp; omega
      · simp
    · simp
  next => simp

theorem length_scan? {s rest : List Char} {l : NumberLiteral} (h : scan? s = some (l, rest)) :
    rest.length < s.length := by
  simp only [scan?, Option.bind_eq_bind, Option.bind_eq_some_iff, Option.pure_def,
    Option.some.injEq, Prod.mk.injEq] at h
  obtain ⟨⟨whole, afterWhole⟩, hw, -, rfl⟩ := h
  have h₁ := length_scanSign s
  have h₂ := length_scanWhole? hw
  have h₃ := length_scanFraction afterWhole
  have h₄ := length_scanExponent (scanFraction afterWhole).2
  dsimp only
  omega

/-- Drops the underscores, each of which must stand between two digits. -/
def withoutSeparators? (afterDigit : Bool) : List Char → Option (List Char)
  | [] => some []
  | c :: rest =>
    if c = '_' then
      if afterDigit ∧ rest.head?.any Char.isDigit then withoutSeparators? false rest else none
    else (withoutSeparators? c.isDigit rest).map (c :: ·)

end NumberLiteral

/-- The double that a text names: a decimal with an optional sign, or a name of an infinity or of
NaN in any case. The whole part or the fraction of a decimal may be empty, but not both. White space
may stand around it, underscores between its digits, and the digits may be those of any script. -/
def Binary64.ofText? (s : List Char) : Option Binary64 := do
  let s ← NumberLiteral.withoutSeparators? false
    ((Blank.trim Blank.isWhiteSpace s).map DecimalDigit.plain)
  let (negative, unsigned) := NumberLiteral.scanExponentSign s
  match String.ofList (unsigned.map Char.toLower) with
  | "inf" | "infinity" => some (.infinite negative)
  | "nan" => some .nan
  | _ =>
    let whole := unsigned.takeWhile Char.isDigit
    let (fraction, rest) :=
      match unsigned.dropWhile Char.isDigit with
      | '.' :: after => (after.takeWhile Char.isDigit, after.dropWhile Char.isDigit)
      | after => ([], after)
    match NumberLiteral.scanExponent rest with
    | (exponent, []) =>
      if whole = [] ∧ fraction = [] then none
      else some (NumberLiteral.toBinary64 ⟨negative, whole, some fraction, exponent⟩)
    | _ => none

end FieldSchema
