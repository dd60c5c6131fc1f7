import FieldSchema.Number.Binary64
import Mathlib.Tactic.Ring
import Mathlib.Tactic.NormNum

/-! Rounding to doubles. It depends on the value of a ratio alone, a double is its own rounding, and
recognising far powers of ten without computing them changes nothing. -/
namespace FieldSchema

open Finite64 (unitsAt unitsPerOne unitsPerOne_pos)

def Finite64.one : Finite64 := ⟨false, ⟨1023 * 2 ^ 52, by decide⟩⟩

theorem nearestPosition_scale (num den : Nat) {k : Nat} (hk : 0 < k) :
    nearestPosition (num * k) (den * k) = nearestPosition num den := by
  have scaled : num * k * unitsPerOne = num * unitsPerOne * k := by ring
  unfold nearestPosition
  dsimp only
  rw [scaled, Nat.mul_div_mul_right _ _ hk]
  generalize num * unitsPerOne = n
  generalize (n / den).log2 - 52 = shift
  have unit : den * k * 2 ^ shift = den * 2 ^ shift * k := by ring
  rw [unit, Nat.mul_div_mul_right _ _ hk, Nat.mul_mod_mul_right]
  generalize den * 2 ^ shift = u
  generalize n % u = r
  have double : 2 * (r * k) = 2 * r * k := by ring
  have more : u * k < 2 * (r * k) ↔ u < 2 * r := by
    rw [double]
    exact Nat.mul_lt_mul_right hk
  have half : u * k = 2 * (r * k) ↔ u = 2 * r := by
    rw [double]
    exact Nat.mul_right_cancel_iff hk
  simp only [more, half]

theorem nearestPosition_congr {num den num' den' : Nat} (hd : 0 < den) (hd' : 0 < den')
    (h : num * den' = num' * den) : nearestPosition num den = nearestPosition num' den' := by
  calc nearestPosition num den = nearestPosition (num * den') (den * den') :=
        (nearestPosition_scale num den hd').symm
    _ = nearestPosition (num' * den) (den' * den) := by rw [h, mul_comm den den']
    _ = nearestPosition num' den' := nearestPosition_scale num' den' hd

/-- A magnitude of a double is its own nearest one. -/
theorem nearestPosition_unitsAt (p : Nat) : nearestPosition (unitsAt p) unitsPerOne = p := by
  have whole : unitsAt p * unitsPerOne / unitsPerOne = unitsAt p :=
    Nat.mul_div_cancel _ unitsPerOne_pos
  unfold nearestPosition
  dsimp only
  rw [whole]
  unfold unitsAt
  by_cases hp : p < 2 ^ 52
  · have shift : p.log2 - 52 = 0 := by
      by_cases hz : p = 0
      · simp [hz]
      · have := (Nat.log2_lt hz).2 hp
        omega
    rw [if_pos hp, shift, pow_zero, mul_one, Nat.mul_div_cancel _ unitsPerOne_pos,
      Nat.mul_mod_left]
    simp [unitsPerOne_pos.ne']
  · rw [if_neg hp]
    generalize hs : p / 2 ^ 52 - 1 = s
    have digits : p % 2 ^ 52 < 2 ^ 52 := Nat.mod_lt p (by norm_num)
    have parts := Nat.div_add_mod p (2 ^ 52)
    have log : ((2 ^ 52 + p % 2 ^ 52) * 2 ^ s).log2 = 52 + s := by
      have nonzero : (2 ^ 52 + p % 2 ^ 52) * 2 ^ s ≠ 0 := by positivity
      rw [Nat.log2_eq_iff nonzero]
      constructor
      · rw [pow_add]
        exact Nat.mul_le_mul_right _ (by omega)
      · have top : 2 ^ (52 + s + 1) = 2 ^ 53 * 2 ^ s := by ring
        rw [top]
        exact Nat.mul_lt_mul_of_pos_right (by omega) (by positivity)
    have unit : unitsPerOne * 2 ^ s = 2 ^ s * unitsPerOne := mul_comm _ _
    have pos : 0 < 2 ^ s * unitsPerOne := Nat.mul_pos (by positivity) unitsPerOne_pos
    rw [log, Nat.add_sub_cancel_left, mul_assoc, unit, Nat.mul_div_cancel _ pos, Nat.mul_mod_left]
    rw [if_neg (by omega)]
    omega

theorem nearestPosition_eq_zero {num den : Nat} (h : 2 * (num * unitsPerOne) < den) :
    nearestPosition num den = 0 := by
  unfold nearestPosition
  dsimp only
  generalize num * unitsPerOne = n at h
  have quotient : n / den = 0 := Nat.div_eq_of_lt (by omega)
  rw [quotient, Nat.log2_zero, Nat.zero_sub, pow_zero, mul_one, quotient,
    Nat.mod_eq_of_lt (by omega), if_neg (by omega), zero_mul]

theorem le_nearestPosition {num den : Nat} (hd : 0 < den) (h : 2 ^ 1024 * den ≤ num) :
    2047 * 2 ^ 52 ≤ nearestPosition num den := by
  unfold nearestPosition
  dsimp only
  have bits : Finite64.fractionBits = 1074 := rfl
  have large : 2 ^ (1024 + Finite64.fractionBits) ≤ num * unitsPerOne / den := by
    rw [Nat.le_div_iff_mul_le hd]
    calc 2 ^ (1024 + Finite64.fractionBits) * den = 2 ^ 1024 * den * unitsPerOne := by
          rw [pow_add, ← Finite64.unitsPerOne, mul_right_comm]
      _ ≤ num * unitsPerOne := Nat.mul_le_mul_right _ h
  have nonzero : num * unitsPerOne / den ≠ 0 := (lt_of_lt_of_le (by positivity) large).ne'
  have log := (Nat.le_log2 nonzero).2 large
  have self := Nat.log2_self_le nonzero
  rw [← Nat.div_div_eq_div_mul]
  generalize num * unitsPerOne / den = q at *
  have below : 2 ^ 52 ≤ q / 2 ^ (q.log2 - 52) := by
    rw [Nat.le_div_iff_mul_le (by positivity), ← pow_add, Nat.add_sub_cancel' (by omega)]
    exact self
  split <;> omega

namespace Binary64

theorem ofRatio_eq_finite {x : Finite64} {num den : Nat}
    (h : nearestPosition num den = x.position) :
    ofRatio x.negative num den = finite x := by
  unfold ofRatio
  dsimp only
  generalize nearestPosition num den = p at h
  rw [h]
  exact dif_pos x.position.isLt

theorem ofRatio_magnitude (x : Finite64) :
    ofRatio x.negative x.magnitude unitsPerOne = finite x :=
  ofRatio_eq_finite (nearestPosition_unitsAt x.position)

theorem ofRatio_congr {negative : Bool} {num den num' den' : Nat} (hd : 0 < den) (hd' : 0 < den')
    (h : num * den' = num' * den) : ofRatio negative num den = ofRatio negative num' den' := by
  unfold ofRatio
  rw [nearestPosition_congr hd hd' h]

theorem ofRatio_eq_zero {negative : Bool} {num den : Nat} (h : nearestPosition num den = 0) :
    ofRatio negative num den = finite (.zero negative) :=
  ofRatio_eq_finite (x := .zero negative) h

theorem two_pow_le_mul_ten_pow {digits e : Nat} (hz : digits ≠ 0) (he : 308 < e) :
    2 ^ 1024 * 1 ≤ digits * 10 ^ e :=
  calc 2 ^ 1024 * 1 ≤ 10 ^ 309 := by decide +kernel
    _ ≤ 10 ^ e := Nat.pow_le_pow_right (by omega) he
    _ ≤ digits * 10 ^ e := Nat.le_mul_of_pos_left _ (Nat.pos_of_ne_zero hz)

/-- Behind that many places digits are less than half of the least double. -/
theorem mul_unitsPerOne_lt_ten_pow {digits e : Nat} (he : digits.log2 + 1077 ≤ 3 * e) :
    2 * (digits * unitsPerOne) < 10 ^ e :=
  calc 2 * (digits * unitsPerOne) = digits * 2 ^ (Finite64.fractionBits + 1) := by
        rw [Finite64.unitsPerOne, mul_left_comm, ← pow_succ']
    _ < 2 ^ (digits.log2 + 1) * 2 ^ (Finite64.fractionBits + 1) :=
        Nat.mul_lt_mul_of_pos_right Nat.lt_log2_self (by positivity)
    _ = 2 ^ (digits.log2 + 1 + (Finite64.fractionBits + 1)) := (pow_add _ _ _).symm
    _ ≤ 2 ^ (3 * e) := by
        apply Nat.pow_le_pow_right (by omega)
        unfold Finite64.fractionBits
        omega
    _ = 8 ^ e := by rw [pow_mul]; norm_num
    _ ≤ 10 ^ e := Nat.pow_le_pow_left (by omega) _

/-- The two short cuts for far powers of ten give what rounding gives. -/
theorem ofDecimal_eq_ofRatio (negative : Bool) (digits : Nat) (exponent : Int) :
    ofDecimal negative digits exponent =
      ofRatio negative (digits * 10 ^ exponent.toNat) (10 ^ (-exponent).toNat) := by
  unfold ofDecimal
  by_cases hz : digits = 0
  · have zero : nearestPosition (digits * 10 ^ exponent.toNat) (10 ^ (-exponent).toNat) = 0 := by
      apply nearestPosition_eq_zero
      rw [hz, zero_mul, zero_mul, mul_zero]
      positivity
    rw [if_pos hz, ofRatio_eq_zero zero]
  · rw [if_neg hz]
    cases exponent with
    | ofNat e =>
      have up : (Int.ofNat e).toNat = e := rfl
      have down : (-Int.ofNat e).toNat = 0 := by simp
      dsimp only
      rw [up, down, pow_zero]
      by_cases he : 308 < e
      · have beyond := le_nearestPosition Nat.one_pos (two_pow_le_mul_ten_pow hz he)
        rw [if_pos he]
        unfold ofRatio
        dsimp only
        rw [dif_neg (by omega)]
      · rw [if_neg he]
    | negSucc e =>
      have up : (Int.negSucc e).toNat = 0 := rfl
      have down : (-Int.negSucc e).toNat = e + 1 := rfl
      dsimp only
      rw [up, down, pow_zero, mul_one]
      by_cases he : digits.log2 + 1077 ≤ 3 * (e + 1)
      · rw [if_pos he, ofRatio_eq_zero (nearestPosition_eq_zero (mul_unitsPerOne_lt_ten_pow he))]
      · rw [if_neg he]

theorem ofDecimal_mul_pow (negative : Bool) (digits k : Nat) (exponent : Int) :
    ofDecimal negative (digits * 10 ^ k) exponent = ofDecimal negative digits (exponent + k) := by
  rw [ofDecimal_eq_ofRatio, ofDecimal_eq_ofRatio]
  apply ofRatio_congr (by positivity) (by positivity)
  have powers : k + exponent.toNat + (-(exponent + k)).toNat =
      (exponent + k).toNat + (-exponent).toNat := by omega
  rw [mul_assoc, mul_assoc, mul_assoc, ← pow_add, ← pow_add, ← pow_add, ← add_assoc, powers]

end Binary64
end FieldSchema
