import FieldSchema.Proofs.Json.Writing
import FieldSchema.Proofs.Number.Text
import FieldSchema.Template.Reveal

/-! What the ASCII text of a value becomes when its escapes are revealed: the text of the same value
in a style of its own. That style spells a curly quote as a straight one and everything else as
itself. -/
namespace FieldSchema

def Template.straight (c : Char) : Char := if isCurlyQuote c.toNat then '"' else c

def CodePoint.straight : CodePoint → CodePoint
  | char c => char (Template.straight c)
  | p => p

namespace Template

open Json

def revealedUnit (unit : Nat) : List Char :=
  if isCurlyQuote unit || unit == 0x22 then ['\\', '"']
  else if staysEscaped unit then Escape.unit unit
  else [Char.ofNat unit]

def revealedSpelling (p : CodePoint) : List Char :=
  match p with
  | .char c =>
    match Escape.letter? c with
    | some l => ['\\', l]
    | none => if 0x20 ≤ c.toNat ∧ c.toNat < 0x7f then [c] else p.units.flatMap revealedUnit
  | .surrogate _ => p.units.flatMap revealedUnit

/-- One text is revealed as the other, and what follows for itself. -/
def Reveals (s t : List Char) : Prop := ∀ rest, reveal (s ++ rest) = t ++ reveal rest

section Pieces

variable {c : Char} {s t u v : List Char}

theorem reveal_cons (h : c ≠ '\\') (s : List Char) : reveal (c :: s) = c :: reveal s := by
  rw [reveal] <;> simp [h]

theorem Reveals.append (h : Reveals s t) (h' : Reveals u v) : Reveals (s ++ u) (t ++ v) := by
  intro rest
  rw [List.append_assoc, h, h', List.append_assoc]

theorem reveals_plain (h : '\\' ∉ s) : Reveals s s := by
  intro rest
  induction s with
  | nil => rfl
  | cons c s ih =>
    obtain ⟨hc, hs⟩ := not_or.1 (mt List.mem_cons.2 h)
    rw [List.cons_append, reveal_cons (Ne.symm hc), ih hs, List.cons_append]

theorem reveals_flatMap {α : Type} {f g : α → List Char} {l : List α}
    (h : ∀ a ∈ l, Reveals (f a) (g a)) : Reveals (l.flatMap f) (l.flatMap g) := by
  induction l with
  | nil => exact fun _ => rfl
  | cons a l ih =>
    obtain ⟨first, others⟩ := List.forall_mem_cons.1 h
    exact first.append (ih others)

theorem reveals_unit {n : Nat} (h : n < 0x10000) :
    Reveals (Escape.unit n) (revealedUnit n) := by
  intro rest
  obtain ⟨a, b, c, d, text, value⟩ := Hex.unit?_padded h
  rw [revealedUnit, Escape.unit, text]
  dsimp only [List.cons_append, List.nil_append]
  rw [reveal, value]
  dsimp only
  split
  · rfl
  · split <;> rfl

theorem reveals_pair {e : Char} (h : e ≠ 'u') : Reveals ['\\', e] ['\\', e] := by
  intro rest
  by_cases backslash : e = '\\'
  · subst backslash
    rw [List.cons_append, List.singleton_append, reveal]
    rfl
  · rw [List.cons_append, List.singleton_append, reveal, reveal_cons backslash]
    · rfl
    · simp [backslash]
    · simp [h]

theorem reveals_letter {l : Char} (h : Escape.letter? c = some l) : Reveals ['\\', l] ['\\', l] :=
  reveals_pair (unescape?_letter h).1

theorem reveals_ascii (p : CodePoint) : Reveals (Escape.ascii p) (revealedSpelling p) := by
  have units : Reveals (p.units.flatMap Escape.unit) (p.units.flatMap revealedUnit) :=
    reveals_flatMap fun u hu => reveals_unit (p.units_lt u hu)
  cases p with
  | surrogate n => exact units
  | char c =>
    unfold Escape.ascii revealedSpelling
    dsimp only
    cases hl : Escape.letter? c with
    | some l => exact reveals_letter hl
    | none =>
      dsimp only
      by_cases plain : 0x20 ≤ c.toNat ∧ c.toNat < 0x7f
      · rw [if_pos plain, if_pos plain]
        exact reveals_plain fun h => (letter?_ne hl).2 (List.mem_singleton.1 h).symm
      · rw [if_neg plain, if_neg plain]
        exact units

end Pieces

def revealedStyle (layout : Layout) : Style Char := ⟨id, revealedSpelling, layout⟩

section Writing

variable {layout : Layout}

theorem reveals_quoted (s : Text) :
    Reveals ((Style.ascii layout).quoted s) ((revealedStyle layout).quoted s) := by
  have quote : Reveals ['"'] ['"'] := reveals_plain (by decide)
  exact (quote.append (reveals_flatMap fun p _ => reveals_ascii p)).append quote

theorem reveals_put {s : List Char} (h : '\\' ∉ s) :
    Reveals ((Style.ascii layout).put s) ((revealedStyle layout).put s) := by
  have ascii : (Style.ascii layout).put s = s := List.map_id s
  have revealed : (revealedStyle layout).put s = s := List.map_id s
  rw [ascii, revealed]
  exact reveals_plain h

theorem backslash_notMem_gap {s : List Char} (h : Reading.Gap s) : '\\' ∉ s :=
  fun hm => absurd (h _ hm) (by decide)

theorem backslash_notMem_realText (x : Binary64) : '\\' ∉ realText x := by
  cases x with
  | finite x => exact (numberText_real x).notMem rfl
  | infinite negative => cases negative <;> decide
  | nan => decide

theorem reveals_separator (hb : layout.Blank) (depth : Nat) :
    Reveals ((Style.ascii layout).put (layout.separator depth))
      ((revealedStyle layout).put (layout.separator depth)) := by
  refine reveals_put ?_
  rw [Layout.separator_eq]
  exact List.not_mem_cons_of_ne_of_not_mem (by decide) (backslash_notMem_gap (hb.gap depth))

theorem reveals_opening {c : Char} (hc : '\\' ≠ c) (hb : layout.Blank) (depth : Nat) :
    Reveals ((Style.ascii layout).put (c :: layout.lineBreak depth))
      ((revealedStyle layout).put (c :: layout.lineBreak depth)) :=
  reveals_put (List.not_mem_cons_of_ne_of_not_mem hc (backslash_notMem_gap (hb.lineBreak depth)))

theorem reveals_closing {c : Char} (hc : '\\' ≠ c) (hb : layout.Blank) (depth : Nat) :
    Reveals ((Style.ascii layout).put (layout.lineBreak depth ++ [c]))
      ((revealedStyle layout).put (layout.lineBreak depth ++ [c])) := by
  refine reveals_put fun h => ?_
  rcases List.mem_append.1 h with h | h
  · exact backslash_notMem_gap (hb.lineBreak depth) h
  · exact hc (List.mem_singleton.1 h)

mutual

/-- Revealing the ASCII text of a value is writing it in another style. -/
theorem reveals_write (hb : layout.Blank) (v : Json) (depth : Nat) :
    Reveals (v.write (.ascii layout) depth) (v.write (revealedStyle layout) depth) := by
  cases v with
  | null => rw [write, write]; exact reveals_put (by decide)
  | bool b => cases b <;> (rw [write, write]; exact reveals_put (by decide))
  | int n => rw [write, write]; exact reveals_put ((numberText_integer n).notMem rfl)
  | real x => rw [write, write]; exact reveals_put (backslash_notMem_realText x)
  | string s => rw [write, write]; exact reveals_quoted s
  | array items =>
    cases items with
    | nil => rw [write, write]; exact reveals_put (by decide)
    | cons v vs =>
      obtain ⟨first, others⟩ := List.forall_mem_cons.1 (reveals_writeItems hb (v :: vs) (depth + 1))
      have inner := first.append
        (reveals_flatMap fun u hu => (reveals_separator hb (depth + 1)).append (others u hu))
      rw [write, write, writeItems_cons, writeItems_cons]
      · exact ((reveals_opening (by decide) hb _).append inner).append
          (reveals_closing (by decide) hb _)
      all_goals exact List.cons_ne_nil v vs
  | object members =>
    cases members with
    | nil => rw [write, write]; exact reveals_put (by decide)
    | cons m ms =>
      obtain ⟨first, others⟩ :=
        List.forall_mem_cons.1 (reveals_writeMembers hb (m :: ms) (depth + 1))
      have inner := first.append
        (reveals_flatMap fun n hn => (reveals_separator hb (depth + 1)).append (others n hn))
      rw [write, write, writeMembers_cons, writeMembers_cons]
      · exact ((reveals_opening (by decide) hb _).append inner).append
          (reveals_closing (by decide) hb _)
      all_goals exact List.cons_ne_nil m ms

theorem reveals_writeItems (hb : layout.Blank) (vs : List Json) (depth : Nat) :
    ∀ v ∈ vs, Reveals (v.write (.ascii layout) depth) (v.write (revealedStyle layout) depth) := by
  cases vs with
  | nil => exact List.forall_mem_nil _
  | cons v vs =>
    exact List.forall_mem_cons.2 ⟨reveals_write hb v depth, reveals_writeItems hb vs depth⟩

theorem reveals_writeMembers (hb : layout.Blank) (ms : List (Text × Json)) (depth : Nat) :
    ∀ m ∈ ms, Reveals (writeMember (.ascii layout) depth m)
      (writeMember (revealedStyle layout) depth m) := by
  have colon : Reveals ((Style.ascii layout).put [':', ' '])
      ((revealedStyle layout).put [':', ' ']) :=
    reveals_put (by decide)
  cases ms with
  | nil => exact List.forall_mem_nil _
  | cons m ms =>
    exact List.forall_mem_cons.2
      ⟨((reveals_quoted m.1).append colon).append (reveals_write hb m.2 depth),
        reveals_writeMembers hb ms depth⟩

end

theorem reveal_asciiText (hb : layout.Blank) (v : Json) :
    reveal (v.asciiText layout) = v.write (revealedStyle layout) 0 := by
  have whole := reveals_write hb v 0 []
  rw [List.append_nil] at whole
  rw [asciiText, whole, reveal, List.append_nil]

end Writing

section Reading

variable {n : Nat} {start rest : List Char} {acc : Text} {layout : Layout}

theorem straight_char {c : Char} (h : c.toNat ≠ 0x201c ∧ c.toNat ≠ 0x201d) :
    (CodePoint.char c).straight = .char c := by
  have curly : isCurlyQuote c.toNat = false := by simp [isCurlyQuote, h]
  rw [CodePoint.straight, straight, curly, if_neg Bool.false_ne_true]

theorem letter?_ne_curly {c l : Char} (h : Escape.letter? c = some l) :
    c.toNat ≠ 0x201c ∧ c.toNat ≠ 0x201d := by
  unfold Escape.letter? at h
  split at h <;> first
    | decide
    | simp at h

theorem straight_ofUnit (h : n < 0x10000) (curly : isCurlyQuote n = false) :
    (CodePoint.ofUnit n).straight = CodePoint.ofUnit n := by
  rcases CodePoint.isValidChar_or_half h with valid | ⟨m, half⟩
  · rw [CodePoint.ofUnit_of_isValidChar valid, CodePoint.straight, straight,
      CodePoint.toNat_ofNat valid, curly, if_neg Bool.false_ne_true]
  · rw [half]
    rfl

theorem straight_quote (quote : isCurlyQuote n || n == 0x22) :
    (CodePoint.ofUnit n).straight = .char '"' := by
  simp only [isCurlyQuote, Bool.or_eq_true, beq_iff_eq] at quote
  rcases quote with (rfl | rfl) | rfl <;> rfl

theorem valid_of_not_staysEscaped (h : n < 0x10000) (plain : staysEscaped n = false) :
    n.isValidChar ∧ 0x20 ≤ n ∧ n ≠ 0x5c := by
  simp only [staysEscaped, Bool.or_eq_false_iff, decide_eq_false_iff_not, beq_eq_false_iff_ne,
    Bool.and_eq_false_iff] at plain
  obtain ⟨⟨⟨control, -⟩, backslash⟩, half⟩ := plain
  refine ⟨?_, by omega, backslash⟩
  by_cases hn : n < 0xd800
  · exact .inl hn
  · exact .inr (by omega)

/-- A unit that does not stay escaped is a character that a string can hold as it is. -/
theorem plain_of_not_staysEscaped (h : n < 0x10000) (quote : (n == 0x22) = false)
    (plain : staysEscaped n = false) : CodePoint.ofUnit n = .char (Char.ofNat n) ∧
      Char.ofNat n ≠ '"' ∧ Char.ofNat n ≠ '\\' ∧ 0x20 ≤ (Char.ofNat n).toNat := by
  obtain ⟨valid, printable, backslash⟩ := valid_of_not_staysEscaped h plain
  have point : (Char.ofNat n).toNat = n := CodePoint.toNat_ofNat valid
  have other : ∀ c : Char, n ≠ c.toNat → Char.ofNat n ≠ c := fun c hc he => hc (he ▸ point.symm)
  exact ⟨CodePoint.ofUnit_of_isValidChar valid, other _ (beq_eq_false_iff_ne.1 quote),
    other _ backslash, point.symm ▸ printable⟩

theorem scanString_revealedUnit (h : n < 0x10000) (hr : rest ≠ []) :
    scanString start acc (revealedUnit n ++ rest) =
      scanString start (push (CodePoint.ofUnit n).straight acc) rest := by
  have letter : Escape.letter? '"' = some '"' := rfl
  unfold revealedUnit
  split
  next quote =>
    rw [straight_quote quote, push_char]
    exact scanString_letter letter
  next other =>
    obtain ⟨curly, quote⟩ := Bool.or_eq_false_iff.1 (Bool.eq_false_iff.2 other)
    rw [straight_ofUnit h curly]
    split
    next => exact scanString_unit h hr
    next plain =>
      obtain ⟨point, quote, backslash, printable⟩ :=
        plain_of_not_staysEscaped h quote (Bool.eq_false_iff.2 plain)
      rw [point, push_char]
      exact scanString_plain quote backslash printable

theorem scanString_revealedUnits {units : List Nat} (small : ∀ u ∈ units, u < 0x10000)
    (hr : rest ≠ []) : scanString start acc (units.flatMap revealedUnit ++ rest) =
      scanString start (units.foldl (fun acc u => push (CodePoint.ofUnit u).straight acc) acc)
        rest := by
  induction units generalizing acc with
  | nil => rfl
  | cons u units ih =>
    obtain ⟨hu, small⟩ := List.forall_mem_cons.1 small
    have more : units.flatMap revealedUnit ++ rest ≠ [] := List.append_ne_nil_of_right_ne_nil _ hr
    rw [List.flatMap_cons, List.append_assoc, scanString_revealedUnit hu more, ih small,
      List.foldl_cons]

theorem push_straight_units (p : CodePoint) (acc : Text) :
    p.units.foldl (fun acc u => push (CodePoint.ofUnit u).straight acc) acc =
      push p.straight acc := by
  cases p with
  | surrogate n =>
    rw [CodePoint.units, List.foldl_cons, List.foldl_nil, CodePoint.ofUnit_half]
  | char c =>
    rcases lt_or_ge c.toNat 0x10000 with small | large
    · rw [CodePoint.units, if_pos small, List.foldl_cons, List.foldl_nil, CodePoint.ofUnit_toNat]
    · have same : (CodePoint.char c).straight = .char c := straight_char (by omega)
      obtain ⟨high, low, halves⟩ := CodePoint.exists_halves large
      rw [same, ← push_units, halves.units]
      simp only [List.foldl_cons, List.foldl_nil, CodePoint.ofUnit_half, CodePoint.straight]

/-- A revealed code point is read as the straightened one. -/
theorem scanString_revealedSpelling (p : CodePoint) (hr : rest ≠ []) :
    scanString start acc (revealedSpelling p ++ rest) =
      scanString start (push p.straight acc) rest := by
  have units : scanString start acc (p.units.flatMap revealedUnit ++ rest) =
      scanString start (push p.straight acc) rest := by
    rw [scanString_revealedUnits p.units_lt hr, push_straight_units]
  cases p with
  | surrogate n => exact units
  | char c =>
    unfold revealedSpelling
    dsimp only
    cases hl : Escape.letter? c with
    | some l =>
      have same : (CodePoint.char c).straight = .char c := straight_char (letter?_ne_curly hl)
      rw [same, push_char]
      exact scanString_letter hl
    | none =>
      dsimp only
      by_cases plain : 0x20 ≤ c.toNat ∧ c.toNat < 0x7f
      · have same : (CodePoint.char c).straight = .char c := straight_char (by omega)
        obtain ⟨quote, backslash⟩ := letter?_ne hl
        rw [if_pos plain, same, push_char]
        exact scanString_plain quote backslash plain.1
      · rw [if_neg plain]
        exact units

theorem reads_straight (hb : layout.Blank) : (revealedStyle layout).Reads CodePoint.straight :=
  ⟨rfl, hb, fun p _ _ _ hr => scanString_revealedSpelling p hr⟩

/-- The revealed text of a value is read as the value with straight quotes. -/
theorem read_revealed (hb : layout.Blank) {v : Json} (hl : ∀ n ∈ v.integers, Legible n) :
    Json.read (reveal (v.asciiText layout)) =
      within v.depth (.ok (v.reread CodePoint.straight)) := by
  rw [reveal_asciiText hb]
  exact (spells_write (reads_straight hb) v hl 0).read

end Reading

end Template

end FieldSchema
