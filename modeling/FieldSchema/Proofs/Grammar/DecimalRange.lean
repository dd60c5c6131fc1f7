import FieldSchema.Proofs.Grammar.FixedPoint
import FieldSchema.Proofs.Grammar.RuleName
import FieldSchema.Proofs.Grammar.Unambiguous

/-! The decimals of a range. A text shows its sign by its first character and its whole part by the
first point, so each is derived in one way; and which texts there are depends on the bounds only by
the signs between them and the larger of their whole parts. -/
namespace FieldSchema.Grammar

open NumberLiteral (Digits)

variable {rules : List (String × Production)}

section Magnitude

variable {low high : Finite64}

theorem lt_abs_iff : (Numeric.abs low).lt (Numeric.abs high) = true ↔
    low.magnitude < high.magnitude := by
  have place : ∀ x : Finite64, (Numeric.abs x).place? = some (0, (x.magnitude : Int)) :=
    fun _ => rfl
  rw [Numeric.lt_eq_decide (place low) (place high), decide_eq_true_iff, Int.ofNat_lt]

theorem wholePart_abs (x : Finite64) :
    wholePart (Numeric.abs x) = .ok (x.magnitude / Finite64.unitsPerOne : Nat) := rfl

/-- Bounds in order leave the decimals that their signs and the larger whole part allow. -/
theorem decimalsBetween_bounds (b : Bounds Finite64) :
    decimalsBetween b.low b.high = .ok (decimalRange b) := by
  have larger : (if (Numeric.abs b.low).lt (Numeric.abs b.high) then Numeric.abs b.high
      else Numeric.abs b.low) = if b.low.magnitude < b.high.magnitude then Numeric.abs b.high
      else Numeric.abs b.low := if_congr lt_abs_iff rfl rfl
  rw [decimalsBetween, larger, decimalRange]
  split
  next h =>
    rw [wholePart_abs, max_eq_right h.le]
    rfl
  next h =>
    rw [wholePart_abs, max_eq_left (not_lt.1 h)]
    rfl

end Magnitude

section Parts

theorem injective_ungrouped (p : Production) : Unambiguous rules p → Function.Injective
    (derived rules (match p with | [s] => s | alternatives => [.group alternatives])) := by
  intro hp
  rcases p with _ | ⟨s, _ | ⟨t, p⟩⟩
  · exact (matched_group rules _).injective hp
  · exact (matched_single rules s).symm.injective hp
  · exact (matched_group rules _).injective hp

theorem injective_optional {s : Sequence} (hs : Function.Injective (derived rules s))
    (filled : ∀ d : Derivation rules s, derived rules s d ≠ []) :
    Function.Injective (derived rules [.optional [s]]) := by
  refine (matched_optional_single rules (.refl _)).injective fun d e h => ?_
  cases d with
  | none =>
    cases e with
    | none => rfl
    | some e => exact absurd h.symm (filled e)
  | some d =>
    cases e with
    | none => exact absurd h (filled d)
    | some e => rw [hs h]

theorem injective_signItems (low high : Numeric) :
    Function.Injective (derived rules (signItems low high)) := by
  have sign : Function.Injective (derived rules [minus]) :=
    (sharp_text "-").cons injective_derived_nil
  have filled : ∀ d : Derivation rules [minus], derived rules [minus] d ≠ [] := fun d hd =>
    List.cons_ne_nil _ _ ((derives_minus.1 d.derives).symm.trans hd)
  generalize hs : signItems low high = s
  unfold signItems at hs
  split at hs
  · exact hs ▸ sign
  · split at hs
    · exact hs ▸ injective_optional sign filled
    · exact hs ▸ injective_derived_nil

theorem word_anyDigit_ne_nil (d : Derivation rules [anyDigit]) : d.word ≠ [] := by
  obtain ⟨c, -, h⟩ := (derives_anyDigit _).1 d.derives
  rw [h]
  exact List.cons_ne_nil _ _

end Parts

section Decimals

/-- The only sign is a character that is no digit, and digits end at the point; so a decimal shows
where its parts end. -/
theorem injective_decimal {sign whole : Sequence} (hs : Function.Injective (derived rules sign))
    (hw : Function.Injective (derived rules whole))
    (signs : ∀ d : Derivation rules sign, derived rules sign d = ['-'] ∨ derived rules sign d = [])
    (digits : ∀ d : Derivation rules whole, ∀ c ∈ derived rules whole d, c.isDigit) :
    Function.Injective
      (derived rules (sign ++ whole ++ .text "." :: between anyDigit 1 fractionDigits)) := by
  have no_minus : ∀ d, '-' ∉ derived rules whole d := fun d hm =>
    absurd (digits d _ hm) (by decide)
  have no_point : ∀ d : Derivation rules sign × Derivation rules whole,
      '.' ∉ derived rules sign d.1 ++ derived rules whole d.2 := by
    intro d hm
    rcases List.mem_append.1 hm with hm | hm
    · rcases signs d.1 with h | h <;> rw [h] at hm <;> exact absurd hm (by decide)
    · exact absurd (digits _ _ hm) (by decide)
  have front : Function.Injective fun d : Derivation rules sign × Derivation rules whole =>
      derived rules sign d.1 ++ derived rules whole d.2 := by
    refine injective_append_of_split hs hw fun d d' e e' h => ?_
    rcases signs d with hd | hd <;> rcases signs d' with hd' | hd' <;> rw [hd, hd'] at h ⊢
    · have continued : '-' :: derived rules whole e = derived rules whole e' := h
      exact absurd (continued ▸ List.mem_cons_self) (no_minus e')
    · have continued : derived rules whole e = '-' :: derived rules whole e' := h
      exact absurd (continued ▸ List.mem_cons_self) (no_minus e)
  have digit : Sharp rules anyDigit := sharp_digit 0 9
  have fraction := digit.between word_anyDigit_ne_nil (show 1 ≤ fractionDigits by decide)
  have parts := (matched_append rules (sign ++ whole)
      (.text "." :: between anyDigit 1 fractionDigits)).trans
    ((matched_append rules sign whole).append
      (matched_text_cons rules "." (between anyDigit 1 fractionDigits)))
  refine parts.injective fun ⟨d, f⟩ ⟨d', f'⟩ h => ?_
  obtain ⟨first, rest⟩ := split_unique (no_point d) (no_point d') h
  exact Prod.ext (front first) (fraction rest)

theorem unambiguous_decimalRange (b : Bounds Finite64) : Unambiguous rules (decimalRange b) := by
  refine unambiguous_singleton (injective_decimal (injective_signItems _ _)
    (injective_ungrouped _ (unambiguous_integerRange _ _)) (fun d => ?_) fun d c hc => ?_)
  · obtain ⟨negative, -, -, word⟩ := derives_signItems.1 d.derives
    cases negative with
    | true => exact .inl word
    | false => exact .inr word
  · obtain ⟨n, hn, -, word⟩ := produces_integerRange.1 (derives_ungrouped.1 d.derives)
    rw [derived, word, integerText_of_nonneg hn] at hc
    exact isDigit_of_mem_toDigits hc

end Decimals

section Exact

theorem FixedPoint.natAbs_scaled_lt (d : FixedPoint) :
    d.scaled.natAbs < (d.whole + 1) * 10 ^ d.fraction.length := by
  have size : d.scaled.natAbs = NumberLiteral.natOfDigits (d.literal.whole ++ d.fraction) := by
    unfold FixedPoint.scaled
    split <;> omega
  have rest := NumberLiteral.natOfDigits_lt d.digits.2
  rw [size, NumberLiteral.natOfDigits_append, FixedPoint.literal,
    NumberLiteral.natOfDigits_toDigits, Nat.succ_mul]
  omega

/-- The whole part of the larger of two bounds, its sign aside. -/
def largestWhole (b : Bounds Finite64) : Nat :=
  max b.low.magnitude b.high.magnitude / Finite64.unitsPerOne

/-- A sign that a number between two bounds is written with: a minus if both are below zero, either
if only the lower one is, and none if neither is. -/
def SignBetween (b : Bounds Finite64) (s : List Char) : Prop :=
  if b.high.units < 0 then s = ['-']
  else if b.low.units < 0 then s = ['-'] ∨ s = []
  else s = []

theorem signBetween_iff {b : Bounds Finite64} {s : List Char} : SignBetween b s ↔
    ∃ negative : Bool, (negative = true → b.low.units < 0) ∧
      (negative = false → 0 ≤ b.high.units) ∧ s = if negative then ['-'] else [] := by
  have ordered : b.low.units ≤ b.high.units := b.ordered
  unfold SignBetween
  split
  next h =>
    have low : b.low.units < 0 := by omega
    simp [h, low]
  next h =>
    have high : 0 ≤ b.high.units := by omega
    split
    next low => simp [low, high, or_comm]
    next low => simp [low, high]

/-- The text of a number that fits is put together from a sign, a whole part and digits. -/
theorem exists_fits_iff {b : Bounds Finite64} {w : List Char} :
    (∃ d : FixedPoint, d.Fits b ∧ w = d.text) ↔
      ∃ s n f, SignBetween b s ∧ n ≤ largestWhole b ∧ Digits f ∧ f.length ≤ fractionDigits ∧
        w = s ++ Nat.toDigits 10 n ++ '.' :: f := by
  constructor
  · rintro ⟨d, ⟨whole, low, high⟩, rfl⟩
    exact ⟨_, d.whole, d.fraction, signBetween_iff.2 ⟨d.negative, low, high, rfl⟩, whole, d.digits,
      d.short, by rw [FixedPoint.text, List.append_assoc]⟩
  · rintro ⟨s, n, f, sign, whole, digits, short, rfl⟩
    obtain ⟨negative, low, high, rfl⟩ := signBetween_iff.1 sign
    exact ⟨⟨negative, n, f, digits, short⟩, ⟨whole, low, high⟩, List.append_assoc _ _ _⟩

/-- The pattern between two bounds is read back as it is, and it derives a text exactly if that is a
sign between the bounds, a whole part no larger than theirs, a point, and one to six digits; each in
exactly one way. So it derives every number between the bounds that is written with a minus only
below zero, and nothing that reaches the whole number after the larger bound. -/
theorem decimalRange_exact (rules : List (String × Production)) (b : Bounds Finite64) :
    decimalsBetween b.low b.high = .ok (decimalRange b) ∧
    Notation.production? (decimalRange b).render.toList = some (decimalRange b) ∧
    (∀ w, Produces rules (fun _ _ => True) (decimalRange b) w ↔
      ∃ s n f, SignBetween b s ∧ n ≤ largestWhole b ∧ (∀ c ∈ f, c.isDigit) ∧
        1 ≤ f.length ∧ f.length ≤ 6 ∧ w = s ++ Nat.toDigits 10 n ++ '.' :: f) ∧
    (∀ w, Produces rules (fun _ _ => True) (decimalRange b) w →
      ∃! c : Choice rules (decimalRange b), c.word = w) ∧
    (∀ d : FixedPoint, d.Within b → (d.negative = true → d.scaled < 0) →
      Produces rules (fun _ _ => True) (decimalRange b) d.text) ∧
    ∀ w, Produces rules (fun _ _ => True) (decimalRange b) w → ∃ d : FixedPoint,
      w = d.text ∧ d.scaled.natAbs < (largestWhole b + 1) * 10 ^ d.fraction.length := by
  refine ⟨decimalsBetween_bounds b, Notation.production?_render (readable_decimalRange b),
    fun w => ?_, fun w => (unambiguous_decimalRange b).existsUnique, fun d within sign => ?_,
    fun w hw => ?_⟩
  · rw [produces_decimalRange, exists_fits_iff]
    refine exists_congr fun s => exists_congr fun n => exists_congr fun f => ?_
    have filled : f ≠ [] ↔ 1 ≤ f.length := List.length_pos_iff.symm
    rw [Digits, filled, fractionDigits]
    tauto
  · exact produces_decimalRange.2 ⟨d, within.fits sign, rfl⟩
  · obtain ⟨d, fits, rfl⟩ := produces_decimalRange.1 hw
    have whole := Nat.mul_le_mul_right (10 ^ d.fraction.length) (Nat.succ_le_succ fits.1)
    exact ⟨d, rfl, d.natAbs_scaled_lt.trans_le whole⟩

end Exact

end FieldSchema.Grammar
