import FieldSchema.Proofs.Number.Digits
import Mathlib.Data.List.TakeWhile

/-! Scanning number literals out of a text. Each part is read to its end as long as what follows
cannot belong to it, so a literal in front of a delimiter comes back whole. -/
namespace FieldSchema.NumberLiteral

/-- A text that adds no digit to a literal before it. -/
def NoDigit (s : List Char) : Prop := ∀ c ∈ s.head?, ¬ c.isDigit

/-- A text that adds nothing to a literal before it. -/
def Ends (s : List Char) : Prop := ∀ c ∈ s.head?, ¬ c.isDigit ∧ c ≠ '.' ∧ c ≠ 'e' ∧ c ≠ 'E'

theorem Ends.noDigit {s : List Char} (h : Ends s) : NoDigit s := fun c hc => (h c hc).1

@[simp] theorem ends_nil : Ends [] := by simp [Ends]

@[simp] theorem noDigit_cons {c : Char} {s : List Char} : NoDigit (c :: s) ↔ ¬ c.isDigit := by
  simp [NoDigit]

def Digits (s : List Char) : Prop := s ≠ [] ∧ ∀ c ∈ s, c.isDigit

/-- Digits with no zero in front, unless the zero stands alone. -/
def Whole (s : List Char) : Prop := Digits s ∧ (s.head? = some '0' → s = ['0'])

theorem isDigit_of_mem_zeros {n : Nat} : ∀ c ∈ List.replicate n '0', c.isDigit := fun c hc => by
  rw [List.eq_of_mem_replicate hc]
  rfl

theorem digits_toDigits (n : Nat) : Digits (Nat.toDigits 10 n) :=
  ⟨Nat.toDigits_ne_nil, fun _ h => isDigit_of_mem_toDigits h⟩

theorem Digits.append {s t : List Char} (hs : Digits s) (ht : ∀ c ∈ t, c.isDigit) :
    Digits (s ++ t) :=
  ⟨by simp [hs.1], List.forall_mem_append.2 ⟨hs.2, ht⟩⟩

theorem Digits.zeros_append {s : List Char} (hs : Digits s) (n : Nat) :
    Digits (List.replicate n '0' ++ s) :=
  ⟨by simp [hs.1], List.forall_mem_append.2 ⟨isDigit_of_mem_zeros, hs.2⟩⟩

theorem whole_toDigits (n : Nat) : Whole (Nat.toDigits 10 n) := by
  refine ⟨digits_toDigits n, fun h => ?_⟩
  by_cases hn : n = 0
  · subst hn
    rfl
  · exact absurd h (head_toDigits hn)

variable {s rest : List Char}

theorem takeWhile_digits (hs : ∀ c ∈ s, c.isDigit) (hr : NoDigit rest) :
    (s ++ rest).takeWhile Char.isDigit = s ∧ (s ++ rest).dropWhile Char.isDigit = rest := by
  rw [List.takeWhile_append_of_pos hs, List.dropWhile_append_of_pos hs]
  cases rest with
  | nil => simp
  | cons c rest =>
    have stop : ¬ c.isDigit := noDigit_cons.1 hr
    simp [stop]

theorem scanDigits?_append (hs : Digits s) (hr : NoDigit rest) :
    scanDigits? (s ++ rest) = some (s, rest) := by
  obtain ⟨take, drop⟩ := takeWhile_digits hs.2 hr
  obtain ⟨c, t, rfl⟩ := List.exists_cons_of_ne_nil hs.1
  unfold scanDigits?
  rw [take, drop]

theorem scanWhole?_append (hs : Whole s) (hr : NoDigit rest) :
    scanWhole? (s ++ rest) = some (s, rest) := by
  obtain ⟨c, t, rfl⟩ := List.exists_cons_of_ne_nil hs.1.1
  by_cases hc : c = '0'
  · subst hc
    rw [hs.2 rfl]
    rfl
  · unfold scanWhole?
    split
    next h =>
      rw [List.cons_append, List.cons.injEq] at h
      exact absurd h.1 hc
    next => exact scanDigits?_append hs.1 hr

theorem scanSign_append (negative : Bool) (hs : Digits s) :
    scanSign ((if negative then ['-'] else []) ++ (s ++ rest)) = (negative, s ++ rest) := by
  cases negative with
  | true => rfl
  | false =>
    obtain ⟨c, t, rfl⟩ := List.exists_cons_of_ne_nil hs.1
    have digit : c.isDigit := hs.2 c (by simp)
    have other : c ≠ '-' := by
      intro hc
      subst hc
      simp at digit
    simp [scanSign, other]

theorem scanFraction_point (hs : Digits s) (hr : NoDigit rest) :
    scanFraction ('.' :: (s ++ rest)) = (some s, rest) := by
  simp [scanFraction, scanDigits?_append hs hr]

theorem scanFraction_none (hr : ∀ c ∈ rest.head?, c ≠ '.') : scanFraction rest = (none, rest) := by
  unfold scanFraction
  split
  next => simp at hr
  next => rfl

theorem scanExponent_none (hr : ∀ c ∈ rest.head?, c ≠ 'e' ∧ c ≠ 'E') :
    scanExponent rest = (none, rest) := by
  unfold scanExponent
  cases rest with
  | nil => rfl
  | cons c rest =>
    have other : ¬ (c = 'e' ∨ c = 'E') := by simpa [not_or] using hr
    dsimp only
    rw [if_neg other]

/-- An exponent as it is written: with its sign, also where it is positive. -/
theorem scanExponent_mark (negative : Bool) (hs : Digits s) (hr : NoDigit rest) :
    scanExponent ('e' :: (if negative then '-' else '+') :: (s ++ rest)) =
      (some (if negative then -(natOfDigits s : Int) else natOfDigits s), rest) := by
  have read := scanDigits?_append hs hr
  cases negative <;> simp [scanExponent, scanExponentSign, scanSign, read]

/-- After the sign and the whole part come the fraction and the exponent. -/
theorem scan?_append (negative : Bool) (hs : Whole s) (hr : NoDigit rest) :
    scan? ((if negative then ['-'] else []) ++ (s ++ rest)) =
      some (⟨negative, s, (scanFraction rest).1, (scanExponent (scanFraction rest).2).1⟩,
        (scanExponent (scanFraction rest).2).2) := by
  unfold scan?
  rw [scanSign_append negative hs.1]
  simp [scanWhole?_append hs hr]

theorem scan?_integer (negative : Bool) (hs : Whole s) (hr : Ends rest) :
    scan? ((if negative then ['-'] else []) ++ (s ++ rest)) =
      some (⟨negative, s, none, none⟩, rest) := by
  have point := scanFraction_none fun c hc => (hr c hc).2.1
  have mark := scanExponent_none fun c hc => (hr c hc).2.2
  rw [scan?_append negative hs hr.noDigit, point, mark]

theorem scan?_decimal (negative : Bool) {fraction : List Char} (hs : Whole s)
    (hf : Digits fraction) (hr : Ends rest) :
    scan? ((if negative then ['-'] else []) ++ (s ++ '.' :: (fraction ++ rest))) =
      some (⟨negative, s, some fraction, none⟩, rest) := by
  have point := scanFraction_point hf hr.noDigit
  have mark := scanExponent_none fun c hc => (hr c hc).2.2
  rw [scan?_append negative hs (by simp), point, mark]

section Split

variable {α : Type} {digits : List Char} {l : NumberLiteral}

theorem scanDigits?_split (h : scanDigits? s = some (digits, rest)) :
    Digits digits ∧ s = digits ++ rest := by
  unfold scanDigits? at h
  split at h
  next => exact absurd h nofun
  next filled =>
    obtain ⟨rfl, rfl⟩ := Prod.mk.inj (Option.some.inj h)
    exact ⟨⟨filled, fun c hc => List.mem_takeWhile_imp hc⟩, List.takeWhile_append_dropWhile.symm⟩

theorem scanWhole?_split (h : scanWhole? s = some (digits, rest)) :
    Whole digits ∧ s = digits ++ rest := by
  unfold scanWhole? at h
  split at h
  next =>
    obtain ⟨rfl, rfl⟩ := Prod.mk.inj (Option.some.inj h)
    exact ⟨whole_toDigits 0, rfl⟩
  next other =>
    obtain ⟨row, rfl⟩ := scanDigits?_split h
    refine ⟨⟨row, fun zero => ?_⟩, rfl⟩
    obtain ⟨t, rfl⟩ := List.head?_eq_some_iff.1 zero
    exact absurd rfl (other _)

theorem scanSign_split (s : List Char) :
    s = (if (scanSign s).1 then ['-'] else []) ++ (scanSign s).2 := by
  unfold scanSign
  split <;> rfl

theorem scan?_whole (h : scan? s = some (l, rest)) : Whole l.whole := by
  simp only [scan?, Option.bind_eq_bind, Option.bind_eq_some_iff, Option.pure_def,
    Option.some.injEq, Prod.mk.injEq] at h
  obtain ⟨⟨whole, afterWhole⟩, hw, rfl, -⟩ := h
  exact (scanWhole?_split hw).1

def Numeric (s : List Char) : Prop := ∀ c ∈ s, c.isDigit ∨ c ∈ ['-', '+', '.', 'e', 'E']

theorem Digits.numeric (h : Digits s) : Numeric s := fun c hc => .inl (h.2 c hc)

theorem Numeric.append {t : List Char} (hs : Numeric s) (ht : Numeric t) : Numeric (s ++ t) :=
  List.forall_mem_append.2 ⟨hs, ht⟩

theorem Numeric.notMem {c : Char} (h : Numeric s) (digit : c.isDigit = false)
    (other : c ∉ ['-', '+', '.', 'e', 'E']) : c ∉ s := by
  intro hc
  rcases h c hc with hd | hm
  · exact isDigit_ne hd digit rfl
  · exact other hm

/-- A text that adds neither a digit nor a fraction to a literal before it. -/
def NoPoint (s : List Char) : Prop := ∀ c ∈ s.head?, ¬ c.isDigit ∧ c ≠ '.'

/-- What is scanned off the text is scanned again in front of any other text with `follow`, and is
then a text with `front`. -/
def Local (scan : List Char → α × List Char) (front follow : List Char → Prop)
    (s : List Char) : Prop :=
  ∃ w, s = w ++ (scan s).2 ∧ Numeric w ∧
    ∀ rest, follow rest → front (w ++ rest) ∧ scan (w ++ rest) = ((scan s).1, rest)

theorem local_of_nothing {scan : List Char → α × List Char} {front follow : List Char → Prop}
    {x : α} (h : scan s = (x, s))
    (same : ∀ rest, follow rest → front rest ∧ scan rest = (x, rest)) :
    Local scan front follow s := by
  refine ⟨[], ?_, List.forall_mem_nil _, fun rest hr => ?_⟩
  · rw [h, List.nil_append]
  · rw [h, List.nil_append]
    exact same rest hr

theorem scanFraction_local (s : List Char) : Local scanFraction NoDigit NoPoint s := by
  have nothing : scanFraction s = (none, s) → Local scanFraction NoDigit NoPoint s := fun h =>
    local_of_nothing h fun rest hr =>
      ⟨fun c hc => (hr c hc).1, scanFraction_none fun c hc => (hr c hc).2⟩
  rcases s with _ | ⟨c, t⟩
  · exact nothing rfl
  by_cases point : c = '.'
  · subst point
    cases row : scanDigits? t with
    | none => exact nothing (by simp [scanFraction, row])
    | some pair =>
      obtain ⟨digits, after⟩ := pair
      obtain ⟨hd, rfl⟩ := scanDigits?_split row
      have scanned : scanFraction ('.' :: (digits ++ after)) = (some digits, after) := by
        simp [scanFraction, row]
      refine ⟨'.' :: digits, ?_, ?_, fun rest hr => ⟨noDigit_cons.2 (by decide), ?_⟩⟩
      · rw [scanned]
        rfl
      · exact List.forall_mem_cons.2 ⟨.inr (by simp), hd.numeric⟩
      · rw [scanned, List.cons_append]
        exact scanFraction_point hd fun c hc => (hr c hc).1
  · exact nothing (scanFraction_none fun d hd => Option.some.inj hd ▸ point)

/-- A text that starts with a digit. -/
def DigitFirst (s : List Char) : Prop := ∃ c ∈ s.head?, c.isDigit

theorem Digits.digitFirst (h : Digits s) : DigitFirst (s ++ rest) := by
  obtain ⟨c, t, rfl⟩ := List.exists_cons_of_ne_nil h.1
  exact ⟨c, rfl, h.2 c List.mem_cons_self⟩

theorem scanExponentSign_unsigned {c : Char} (plus : c ≠ '+') (minus : c ≠ '-') :
    scanExponentSign (c :: s) = (false, c :: s) := by
  simp [scanExponentSign, scanSign, plus, minus]

theorem scanExponentSign_local (s : List Char) :
    Local scanExponentSign (fun _ => True) DigitFirst s := by
  have nothing : scanExponentSign s = (false, s) →
      Local scanExponentSign (fun _ => True) DigitFirst s := fun h =>
    local_of_nothing h fun rest ⟨c, hc, digit⟩ => by
      obtain ⟨t, rfl⟩ := List.head?_eq_some_iff.1 hc
      exact ⟨trivial, scanExponentSign_unsigned (isDigit_ne digit rfl) (isDigit_ne digit rfl)⟩
  rcases s with _ | ⟨c, t⟩
  · exact nothing rfl
  by_cases plus : c = '+'
  · subst plus
    exact ⟨['+'], rfl, List.forall_mem_singleton.2 (.inr (by simp)), fun _ _ => ⟨trivial, rfl⟩⟩
  by_cases minus : c = '-'
  · subst minus
    exact ⟨['-'], rfl, List.forall_mem_singleton.2 (.inr (by simp)), fun _ _ => ⟨trivial, rfl⟩⟩
  exact nothing (scanExponentSign_unsigned plus minus)

theorem scanExponent_local (s : List Char) : Local scanExponent NoPoint Ends s := by
  have nothing : scanExponent s = (none, s) → Local scanExponent NoPoint Ends s := fun h =>
    local_of_nothing h fun rest hr =>
      ⟨fun c hc => ⟨(hr c hc).1, (hr c hc).2.1⟩, scanExponent_none fun c hc => (hr c hc).2.2⟩
  rcases s with _ | ⟨e, t⟩
  · exact nothing rfl
  by_cases mark : e = 'e' ∨ e = 'E'
  · obtain ⟨sign, split, hs, again⟩ := scanExponentSign_local t
    cases row : scanDigits? (scanExponentSign t).2 with
    | none => exact nothing (by simp [scanExponent, mark, row])
    | some pair =>
      obtain ⟨digits, after⟩ := pair
      obtain ⟨hd, unsigned⟩ := scanDigits?_split row
      have scanned : scanExponent (e :: t) = (some (if (scanExponentSign t).1 then
          -(natOfDigits digits : Int) else natOfDigits digits), after) := by
        simp [scanExponent, mark, row]
      rw [unsigned] at split
      refine ⟨e :: (sign ++ digits), ?_, ?_, fun rest hr => ⟨?_, ?_⟩⟩
      · rw [scanned]
        simpa using split
      · refine List.forall_mem_cons.2 ⟨.inr ?_, hs.append hd.numeric⟩
        rcases mark with rfl | rfl <;> simp
      · rcases mark with rfl | rfl <;> exact fun c hc => Option.some.inj hc ▸ by decide
      · have follow := (again (digits ++ rest) hd.digitFirst).2
        rw [scanned, List.cons_append, List.append_assoc]
        simp [scanExponent, mark, follow, scanDigits?_append hd hr.noDigit]
  · exact nothing (scanExponent_none fun d hd => Option.some.inj hd ▸ not_or.1 mark)

/-- A literal is scanned again in front of any other text that adds nothing to it. -/
theorem scan?_local (h : scan? s = some (l, rest)) : ∃ w, s = w ++ rest ∧ Numeric w ∧
    ∀ rest, Ends rest → scan? (w ++ rest) = some (l, rest) := by
  simp only [scan?, Option.bind_eq_bind, Option.bind_eq_some_iff, Option.pure_def,
    Option.some.injEq, Prod.mk.injEq] at h
  obtain ⟨⟨whole, afterWhole⟩, hw, rfl, rfl⟩ := h
  have signed := scanSign_split s
  obtain ⟨row, unsigned⟩ := scanWhole?_split hw
  obtain ⟨point, fractional, numericPoint, againPoint⟩ := scanFraction_local afterWhole
  obtain ⟨mark, exponential, numericMark, againMark⟩ :=
    scanExponent_local (scanFraction afterWhole).2
  have numericSign : Numeric (if (scanSign s).1 then ['-'] else []) := by
    split
    · exact List.forall_mem_singleton.2 (.inr (by simp))
    · exact List.forall_mem_nil _
  refine ⟨(if (scanSign s).1 then ['-'] else []) ++ (whole ++ (point ++ mark)), ?_,
    numericSign.append (row.1.numeric.append (numericPoint.append numericMark)), fun rest hr => ?_⟩
  · rw [List.append_assoc, List.append_assoc, List.append_assoc, ← exponential, ← fractional,
      ← unsigned]
    exact signed
  · obtain ⟨noPoint, exponent⟩ := againMark rest hr
    obtain ⟨noDigit, fraction⟩ := againPoint (mark ++ rest) noPoint
    rw [List.append_assoc, List.append_assoc, List.append_assoc, scan?_append _ row noDigit,
      fraction, exponent]

end Split

end FieldSchema.NumberLiteral
