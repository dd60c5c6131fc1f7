import FieldSchema.Proofs.Grammar.DigitRange
import FieldSchema.Proofs.Number.Scan
import Mathlib.Tactic.Positivity
import Mathlib.Tactic.Ring

/-! What the patterns for decimals derive: numbers with a point and a few digits after it. Their
sign and their whole part fit between the bounds; the digits after the point are free. -/
namespace FieldSchema.Grammar

open NumberLiteral (Digits Ends natOfDigits)

/-- A number with a point and at most `fractionDigits` digits after it. -/
structure FixedPoint where
  negative : Bool
  whole : Nat
  fraction : List Char
  digits : Digits fraction
  short : fraction.length ≤ fractionDigits

namespace FixedPoint

def text (d : FixedPoint) : List Char :=
  (if d.negative then ['-'] else []) ++ (Nat.toDigits 10 d.whole ++ '.' :: d.fraction)

def literal (d : FixedPoint) : NumberLiteral :=
  ⟨d.negative, Nat.toDigits 10 d.whole, some d.fraction, none⟩

def scaled (d : FixedPoint) : Int :=
  if d.negative then -natOfDigits (d.literal.whole ++ d.fraction)
  else natOfDigits (d.literal.whole ++ d.fraction)

theorem scan?_text (d : FixedPoint) {rest : List Char} (hr : Ends rest) :
    NumberLiteral.scan? (d.text ++ rest) = some (d.literal, rest) := by
  have read := NumberLiteral.scan?_decimal d.negative
    (NumberLiteral.whole_toDigits d.whole) d.digits hr
  have shape : d.text ++ rest = (if d.negative then ['-'] else []) ++
      (Nat.toDigits 10 d.whole ++ '.' :: (d.fraction ++ rest)) := by simp [text]
  rw [shape, read]
  rfl

/-- The sign is possible and the whole part is no larger than that of a bound. -/
def Fits (d : FixedPoint) (b : Bounds Finite64) : Prop :=
  d.whole ≤ max b.low.magnitude b.high.magnitude / Finite64.unitsPerOne ∧
    (d.negative = true → b.low.units < 0) ∧ (d.negative = false → 0 ≤ b.high.units)

/-- The exact value lies between two bounds. -/
def Within (d : FixedPoint) (b : Bounds Finite64) : Prop :=
  b.low.units * 10 ^ d.fraction.length ≤ d.scaled * Finite64.unitsPerOne ∧
    d.scaled * Finite64.unitsPerOne ≤ b.high.units * 10 ^ d.fraction.length

theorem text_injective : Function.Injective text := by
  intro d e h
  have read := d.scan?_text NumberLiteral.ends_nil
  rw [h, e.scan?_text NumberLiteral.ends_nil] at read
  have parts := (Prod.mk.inj (Option.some.inj read)).1
  obtain ⟨negative, whole, fraction, _, _⟩ := d
  obtain ⟨negative', whole', fraction', _, _⟩ := e
  simp only [literal, NumberLiteral.mk.injEq, Option.some.injEq, and_true] at parts
  obtain ⟨rfl, digits, rfl⟩ := parts
  obtain rfl := toDigits_injective digits
  rfl

/-- The number of this sign and whole part with nothing behind the point. -/
def ofWhole (negative : Bool) (whole : Nat) : FixedPoint :=
  ⟨negative, whole, ['0'], by simp [Digits], by decide⟩

theorem fits_ofWhole {negative : Bool} {whole : Nat} {b : Bounds Finite64} :
    (ofWhole negative whole).Fits b ↔
      whole ≤ max b.low.magnitude b.high.magnitude / Finite64.unitsPerOne ∧
        if negative then b.low.units < 0 else 0 ≤ b.high.units := by
  cases negative <;> simp [Fits, ofWhole]

theorem exists_ofWhole_fits (b : Bounds Finite64) : ∃ negative, (ofWhole negative
    (max b.low.magnitude b.high.magnitude / Finite64.unitsPerOne)).Fits b := by
  have ordered : b.low.units ≤ b.high.units := b.ordered
  by_cases low : b.low.units < 0
  · exact ⟨true, fits_ofWhole.2 ⟨le_rfl, low⟩⟩
  · exact ⟨false, fits_ofWhole.2 ⟨le_rfl, by rw [if_neg Bool.false_ne_true]; omega⟩⟩

theorem natAbs_units (x : Finite64) : x.units.natAbs = x.magnitude := by
  unfold Finite64.units
  split <;> omega

/-- A value between the bounds fits, unless it is a zero with a sign. -/
theorem Within.fits {d : FixedPoint} {b : Bounds Finite64} (h : d.Within b)
    (hs : d.negative = true → d.scaled < 0) : d.Fits b := by
  obtain ⟨low, high⟩ := h
  have unit : (0 : Int) < Finite64.unitsPerOne := by exact_mod_cast Finite64.unitsPerOne_pos
  have power : (0 : Int) < 10 ^ d.fraction.length := by positivity
  refine ⟨?_, fun hn => ?_, fun hn => ?_⟩
  · have value : d.whole * 10 ^ d.fraction.length ≤ d.scaled.natAbs := by
      have parts := NumberLiteral.natOfDigits_append (Nat.toDigits 10 d.whole) d.fraction
      rw [NumberLiteral.natOfDigits_toDigits] at parts
      unfold scaled
      simp only [literal]
      split <;> omega
    have bound : d.scaled.natAbs * Finite64.unitsPerOne ≤
        max b.low.magnitude b.high.magnitude * 10 ^ d.fraction.length := by
      rw [← natAbs_units, ← natAbs_units, ← Int.natAbs_natCast Finite64.unitsPerOne,
        ← Int.natAbs_mul, ← Nat.mul_max_mul_right]
      have left : b.low.units.natAbs * 10 ^ d.fraction.length =
          (b.low.units * 10 ^ d.fraction.length).natAbs := by simp [Int.natAbs_mul, Int.natAbs_pow]
      have right : b.high.units.natAbs * 10 ^ d.fraction.length =
          (b.high.units * 10 ^ d.fraction.length).natAbs := by
        simp [Int.natAbs_mul, Int.natAbs_pow]
      rw [left, right]
      omega
    rw [Nat.le_div_iff_mul_le Finite64.unitsPerOne_pos]
    refine Nat.le_of_mul_le_mul_right ?_ (show 0 < 10 ^ d.fraction.length by positivity)
    calc d.whole * Finite64.unitsPerOne * 10 ^ d.fraction.length =
          d.whole * 10 ^ d.fraction.length * Finite64.unitsPerOne := by ring
      _ ≤ d.scaled.natAbs * Finite64.unitsPerOne := Nat.mul_le_mul_right _ value
      _ ≤ _ := bound
  · by_contra hlow
    have below : d.scaled * Finite64.unitsPerOne < 0 := Int.mul_neg_of_neg_of_pos (hs hn) unit
    have above : 0 ≤ b.low.units * 10 ^ d.fraction.length :=
      Int.mul_nonneg (by omega) power.le
    omega
  · by_contra hhigh
    have positive : 0 ≤ d.scaled := by
      unfold scaled
      rw [hn, if_neg Bool.false_ne_true]
      omega
    have above : 0 ≤ d.scaled * Finite64.unitsPerOne := Int.mul_nonneg positive unit.le
    have below : b.high.units * 10 ^ d.fraction.length < 0 :=
      Int.mul_neg_of_neg_of_pos (by omega) power
    omega

end FixedPoint

variable {rules : List (String × Production)} {admits : String → List Char → Prop}
  {w : List Char}

theorem lt_zero_iff (x : Finite64) : Numeric.lt x (0 : Int) = true ↔ x.units < 0 := by
  rw [Numeric.lt_eq_decide rfl rfl, decide_eq_true_iff, zero_mul]

/-- A minus sign is allowed if something below zero is, and required if nothing else is. -/
theorem derives_signItems {b : Bounds Finite64} :
    Derives rules admits (signItems b.low b.high) w ↔ ∃ negative : Bool,
      (negative = true → b.low.units < 0) ∧ (negative = false → 0 ≤ b.high.units) ∧
        w = if negative then ['-'] else [] := by
  have ordered : b.low.units ≤ b.high.units := b.ordered
  unfold signItems
  by_cases hhigh : b.high.units < 0
  · rw [if_pos ((lt_zero_iff _).2 hhigh), derives_minus]
    constructor
    · intro h
      exact ⟨true, fun _ => by omega, nofun, h⟩
    · intro ⟨negative, _, h, hw⟩
      cases negative with
      | false => exact absurd (h rfl) (by omega)
      | true => exact hw
  · rw [if_neg (mt (lt_zero_iff _).1 hhigh)]
    by_cases hlow : b.low.units < 0
    · rw [if_pos ((lt_zero_iff _).2 hlow), derives_optional, produces_singleton, derives_minus]
      constructor
      · intro h
        rcases h with rfl | rfl
        · exact ⟨false, nofun, fun _ => by omega, rfl⟩
        · exact ⟨true, fun _ => hlow, nofun, rfl⟩
      · intro ⟨negative, _, _, hw⟩
        cases negative with
        | false => exact .inl hw
        | true => exact .inr hw
    · rw [if_neg (mt (lt_zero_iff _).1 hlow), derives_nil]
      constructor
      · intro h
        exact ⟨false, nofun, fun _ => by omega, h⟩
      · intro ⟨negative, h, _, hw⟩
        cases negative with
        | false => exact hw
        | true => exact absurd (h rfl) hlow

theorem derives_ungrouped {p : Production} :
    Derives rules admits (match p with | [s] => s | alternatives => [.group alternatives]) w ↔
      Produces rules admits p w := by
  split <;> simp

theorem produces_decimalRange {b : Bounds Finite64} :
    Produces rules admits (decimalRange b) w ↔ ∃ d : FixedPoint, d.Fits b ∧ w = d.text := by
  have fraction : ∀ v, Derives rules admits (between anyDigit 1 fractionDigits) v ↔
      1 ≤ v.length ∧ v.length ≤ fractionDigits ∧ ∀ c ∈ v, c.isDigit :=
    fun v => derives_between_chars (w := v) (by decide : 1 ≤ fractionDigits) derives_anyDigit
  unfold decimalRange decimals
  dsimp only
  rw [produces_singleton, derives_append]
  constructor
  · intro ⟨u, v, hw, hu, hv⟩
    obtain ⟨u₁, u₂, rfl, hsign, hwhole⟩ := derives_append.1 hu
    obtain ⟨v, rfl, hfraction⟩ := derives_text_cons.1 hv
    obtain ⟨negative, hlow, hhigh, rfl⟩ := derives_signItems.1 hsign
    obtain ⟨n, hn, hm, rfl⟩ := produces_integerRange.1 (derives_ungrouped.1 hwhole)
    obtain ⟨hpos, hshort, hdigits⟩ := (fraction v).1 hfraction
    have filled : v ≠ [] := List.ne_nil_of_length_pos hpos
    refine ⟨⟨negative, n.toNat, v, ⟨filled, hdigits⟩, hshort⟩, ⟨?_, hlow, hhigh⟩, ?_⟩
    · dsimp only
      omega
    · rw [hw, integerText_of_nonneg hn, List.append_assoc]
      rfl
  · intro ⟨d, hd, hw⟩
    obtain ⟨hmagnitude, hlow, hhigh⟩ := hd
    have sign : Derives rules admits (signItems b.low b.high) _ :=
      derives_signItems.2 ⟨d.negative, hlow, hhigh, rfl⟩
    have whole : Produces rules admits
        (integerRange 0 (max b.low.magnitude b.high.magnitude / Finite64.unitsPerOne : Nat)) _ :=
      produces_integerRange.2 ⟨d.whole, by omega, by omega, rfl⟩
    have last := (fraction d.fraction).2
      ⟨List.length_pos_iff.2 d.digits.1, d.short, d.digits.2⟩
    refine ⟨_, _, ?_, derives_append.2 ⟨_, _, rfl, sign, derives_ungrouped.2 whole⟩,
      derives_text_cons.2 ⟨_, rfl, last⟩⟩
    rw [hw, integerText_of_nonneg (by omega), List.append_assoc]
    rfl

end FieldSchema.Grammar
