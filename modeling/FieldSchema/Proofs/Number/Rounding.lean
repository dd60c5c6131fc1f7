import FieldSchema.Number.Numeric
import FieldSchema.Proofs.Number.Nearest

/-! Rounding to doubles keeps the order, and of the integers all below the middle between the
largest double and the power of two after it round to a double. -/
namespace FieldSchema

open Finite64 (unitsAt unitsPerOne unitsPerOne_pos)

/-- A quotient, or the number after it if more than half of the divisor remains, or just half and
the quotient is odd. -/
def nearestQuotient (n unit : Nat) : Nat :=
  if unit < 2 * (n % unit) ∨ (unit = 2 * (n % unit) ∧ n / unit % 2 = 1) then n / unit + 1
  else n / unit

theorem le_nearestQuotient (n unit : Nat) : n / unit ≤ nearestQuotient n unit := by
  unfold nearestQuotient
  split <;> omega

theorem nearestQuotient_le (n unit : Nat) : nearestQuotient n unit ≤ n / unit + 1 := by
  unfold nearestQuotient
  split <;> omega

theorem nearestQuotient_mono {m n unit : Nat} (h : m ≤ n) :
    nearestQuotient m unit ≤ nearestQuotient n unit := by
  rcases Nat.lt_or_eq_of_le (Nat.div_le_div_right (c := unit) h) with less | same
  · calc nearestQuotient m unit ≤ m / unit + 1 := nearestQuotient_le m unit
      _ ≤ n / unit := less
      _ ≤ nearestQuotient n unit := le_nearestQuotient n unit
  · -- With the same quotient the remainders are ordered.
    have whole := Nat.div_add_mod m unit
    have whole' := Nat.div_add_mod n unit
    rw [← same] at whole'
    unfold nearestQuotient
    rw [← same]
    split
    next up =>
      rw [if_pos (by omega)]
    next => split <;> omega

theorem nearestPosition_eq (num den : Nat) : nearestPosition num den =
    let shift := (num * unitsPerOne / den).log2 - 52
    shift * 2 ^ 52 + nearestQuotient (num * unitsPerOne) (den * 2 ^ shift) := rfl

theorem log2_mono {m n : Nat} (h : m ≤ n) : m.log2 ≤ n.log2 := by
  by_cases hm : m = 0
  · simp [hm]
  · exact (Nat.le_log2 (by omega)).2 (le_trans (Nat.log2_self_le hm) h)

theorem nearestPosition_mono {num num' : Nat} (den : Nat) (h : num ≤ num') :
    nearestPosition num den ≤ nearestPosition num' den := by
  rw [nearestPosition_eq, nearestPosition_eq]
  dsimp only
  have scaled : num * unitsPerOne ≤ num' * unitsPerOne := Nat.mul_le_mul_right _ h
  generalize num * unitsPerOne = n at *
  generalize num' * unitsPerOne = n' at *
  have logs : (n / den).log2 ≤ (n' / den).log2 := log2_mono (Nat.div_le_div_right scaled)
  by_cases same : (n / den).log2 - 52 = (n' / den).log2 - 52
  · rw [same]
    exact Nat.add_le_add_left (nearestQuotient_mono scaled) _
  · -- The quotient of the larger number starts where that of the smaller one can at most end.
    have low : nearestQuotient n (den * 2 ^ ((n / den).log2 - 52)) ≤ 2 ^ 53 := by
      refine (nearestQuotient_le _ _).trans ?_
      rw [← Nat.div_div_eq_div_mul, Nat.succ_le_iff, Nat.div_lt_iff_lt_mul (by positivity),
        ← pow_add]
      exact lt_of_lt_of_le Nat.lt_log2_self (Nat.pow_le_pow_right (by omega) (by omega))
    have high : 2 ^ 52 ≤ nearestQuotient n' (den * 2 ^ ((n' / den).log2 - 52)) := by
      refine le_trans ?_ (le_nearestQuotient _ _)
      have nonzero : n' / den ≠ 0 := by
        intro hz
        rw [hz, Nat.log2_zero] at same logs
        omega
      rw [← Nat.div_div_eq_div_mul, Nat.le_div_iff_mul_le (by positivity), ← pow_add,
        Nat.add_sub_cancel' (by omega)]
      exact Nat.log2_self_le nonzero
    omega

/-- Positions are in the order of their magnitudes. -/
theorem unitsAt_mono {p q : Nat} (h : p ≤ q) : unitsAt p ≤ unitsAt q := by
  by_contra less
  have back := nearestPosition_mono unitsPerOne (Nat.le_of_not_le less)
  rw [nearestPosition_unitsAt, nearestPosition_unitsAt] at back
  rw [le_antisymm h back] at less
  exact less le_rfl

theorem eq_of_ofRatio {negative : Bool} {num den : Nat} {x : Finite64}
    (h : Binary64.ofRatio negative num den = .finite x) :
    x.negative = negative ∧ x.position = nearestPosition num den := by
  unfold Binary64.ofRatio at h
  dsimp only at h
  generalize nearestPosition num den = p at h
  split at h
  next => exact Binary64.finite.inj h ▸ ⟨rfl, rfl⟩
  next => exact absurd h nofun

theorem ofInt?_eq_some_iff {n : Int} {x : Finite64} : Binary64.ofInt? n = some x ↔
    Binary64.ofRatio (decide (n < 0)) n.natAbs 1 = .finite x := by
  -- Unfolded as a function: unfolded at an integer, the rounding would be computed.
  generalize hf : Binary64.ofInt? = f
  delta Binary64.ofInt? at hf
  subst hf
  dsimp only
  generalize Binary64.ofRatio (decide (n < 0)) n.natAbs 1 = r
  cases r <;> simp

/-- A double nearest to a number of units, on its side of zero. -/
structure Rounds (units : Int) (x : Finite64) : Prop where
  magnitude : x.position = nearestPosition units.natAbs unitsPerOne
  negative : x.negative = true → units ≤ 0
  positive : x.negative = false → 0 ≤ units

namespace Rounds

variable {m n : Int} {x y : Finite64}

theorem double (x : Finite64) : Rounds x.units x := by
  have size : x.units.natAbs = unitsAt x.position := by
    unfold Finite64.units Finite64.magnitude
    split <;> omega
  refine ⟨?_, fun h => ?_, fun h => ?_⟩
  · rw [size, nearestPosition_unitsAt]
  · rw [Finite64.units, if_pos h]
    omega
  · rw [Finite64.units, h, if_neg Bool.false_ne_true]
    omega

theorem int (h : Binary64.ofInt? n = some x) : Rounds (n * unitsPerOne) x := by
  have size : ∀ k : Nat, 0 < k →
      nearestPosition (n * k : Int).natAbs k = nearestPosition n.natAbs 1 := by
    intro k hk
    have scale := nearestPosition_scale n.natAbs 1 hk
    rw [one_mul] at scale
    rw [Int.natAbs_mul, Int.natAbs_natCast, scale]
  have unit : (0 : Int) ≤ unitsPerOne := Int.natCast_nonneg _
  obtain ⟨sign, position⟩ := eq_of_ofRatio (ofInt?_eq_some_iff.1 h)
  refine ⟨position.trans (size _ unitsPerOne_pos).symm, fun negative => ?_, fun positive => ?_⟩
  · have below : n < 0 := of_decide_eq_true (sign.symm.trans negative)
    exact Int.mul_nonpos_of_nonpos_of_nonneg (Int.le_of_lt below) unit
  · have above : ¬ n < 0 := of_decide_eq_false (sign.symm.trans positive)
    exact Int.mul_nonneg (Int.not_lt.1 above) unit

theorem mono (hx : Rounds m x) (hy : Rounds n y) (h : m ≤ n) : x.units ≤ y.units := by
  have zero : unitsAt (nearestPosition 0 unitsPerOne) = 0 := by
    have none : nearestPosition 0 unitsPerOne = 0 := nearestPosition_unitsAt 0
    rw [none]
    rfl
  have farther : ∀ a b, a ≤ b →
      unitsAt (nearestPosition a unitsPerOne) ≤ unitsAt (nearestPosition b unitsPerOne) :=
    fun _ _ h => unitsAt_mono (nearestPosition_mono unitsPerOne h)
  unfold Finite64.units Finite64.magnitude
  rw [hx.magnitude, hy.magnitude]
  generalize unitsPerOne = one at *
  cases hn : x.negative with
  | true =>
    have below := hx.negative hn
    cases hn' : y.negative with
    | true =>
      have below' := hy.negative hn'
      have sizes := farther n.natAbs m.natAbs (by omega)
      rw [if_pos rfl, if_pos rfl]
      omega
    | false =>
      rw [if_pos rfl, if_neg Bool.false_ne_true]
      omega
  | false =>
    have above := hx.positive hn
    rw [if_neg Bool.false_ne_true]
    cases hn' : y.negative with
    | true =>
      have below := hy.negative hn'
      obtain ⟨rfl, rfl⟩ : m = 0 ∧ n = 0 := by omega
      rw [if_pos rfl, Int.natAbs_zero, zero]
      exact le_rfl
    | false =>
      have sizes := farther m.natAbs n.natAbs (by omega)
      rw [if_neg Bool.false_ne_true]
      omega

end Rounds

theorem exists_ofRatio (negative : Bool) {num den : Nat}
    (h : nearestPosition num den < 2047 * 2 ^ 52) :
    ∃ x, Binary64.ofRatio negative num den = .finite x := by
  unfold Binary64.ofRatio
  dsimp only
  generalize nearestPosition num den = p at h
  exact ⟨_, dif_pos h⟩

/-- Where an integer is rounded to a double, those nearer to zero are. -/
theorem ofInt?_isSome_of_le {n : Int} {k : Nat} (hk : nearestPosition k 1 < 2047 * 2 ^ 52)
    (h : n.natAbs ≤ k) : ∃ x, Binary64.ofInt? n = some x := by
  obtain ⟨x, hx⟩ := exists_ofRatio (decide (n < 0)) (lt_of_le_of_lt (nearestPosition_mono 1 h) hk)
  exact ⟨x, ofInt?_eq_some_iff.2 hx⟩

theorem ofInt?_isSome {n : Int} (h : n.natAbs < 2 ^ 1024 - 2 ^ 970) :
    ∃ x, Binary64.ofInt? n = some x := by
  have largest : nearestPosition (2 ^ 1024 - 2 ^ 970 - 1) 1 < 2047 * 2 ^ 52 := by decide +kernel
  exact ofInt?_isSome_of_le largest (Nat.le_sub_one_of_lt h)

/-- The integers without a nearest double start at that middle, which rounds up. -/
theorem ofInt?_eq_none_iff {n : Int} :
    Binary64.ofInt? n = none ↔ 2 ^ 1024 - 2 ^ 970 ≤ n.natAbs := by
  constructor
  · intro none
    by_contra small
    obtain ⟨x, hx⟩ := ofInt?_isSome (Nat.not_le.1 small)
    rw [hx] at none
    exact absurd none nofun
  · intro large
    have middle : 2047 * 2 ^ 52 ≤ nearestPosition (2 ^ 1024 - 2 ^ 970) 1 := by decide +kernel
    have beyond := middle.trans (nearestPosition_mono 1 large)
    rw [Option.eq_none_iff_forall_ne_some]
    intro x hx
    have rounded := (eq_of_ofRatio (ofInt?_eq_some_iff.1 hx)).2
    exact absurd (rounded ▸ x.position.isLt) (Nat.not_lt.2 beyond)

section Between

variable {num den : Nat} {x low high : Finite64}

theorem nearestPosition_le_position (hd : 0 < den) (h : num * unitsPerOne ≤ x.magnitude * den) :
    nearestPosition num den ≤ x.position := by
  calc nearestPosition num den = nearestPosition (num * unitsPerOne) (den * unitsPerOne) :=
        (nearestPosition_scale num den unitsPerOne_pos).symm
    _ ≤ nearestPosition (x.magnitude * den) (den * unitsPerOne) := nearestPosition_mono _ h
    _ = nearestPosition x.magnitude unitsPerOne := by
        rw [mul_comm den, nearestPosition_scale _ _ hd]
    _ = x.position := nearestPosition_unitsAt x.position

theorem position_le_nearestPosition (hd : 0 < den) (h : x.magnitude * den ≤ num * unitsPerOne) :
    x.position ≤ nearestPosition num den := by
  calc (x.position : Nat) = nearestPosition x.magnitude unitsPerOne :=
        (nearestPosition_unitsAt x.position).symm
    _ = nearestPosition (x.magnitude * den) (den * unitsPerOne) := by
        rw [mul_comm den, nearestPosition_scale _ _ hd]
    _ ≤ nearestPosition (num * unitsPerOne) (den * unitsPerOne) := nearestPosition_mono _ h
    _ = nearestPosition num den := nearestPosition_scale num den unitsPerOne_pos

theorem Finite64.units_eq (x : Finite64) : x.units = x.magnitude ∨ x.units = -x.magnitude := by
  unfold Finite64.units
  split <;> simp

theorem Finite64.units_opposite (x : Finite64) :
    Finite64.units ⟨!x.negative, x.position⟩ = -x.units := by
  unfold Finite64.units Finite64.magnitude
  cases x.negative <;> simp

/-- A ratio between two doubles has a magnitude between them as well, once it is rounded. -/
theorem exists_ofRatio_magnitude (negative : Bool) (low high : Finite64) (hd : 0 < den)
    (hl : low.units * den ≤ num * unitsPerOne) (hh : num * unitsPerOne ≤ high.units * den) :
    ∃ x, Binary64.ofRatio negative num den = .finite x ∧ x.negative = negative ∧
      low.units ≤ x.magnitude ∧ x.magnitude ≤ high.units := by
  have divisor : (0 : Int) < den := by exact_mod_cast hd
  have above : 0 ≤ high.units := by
    by_contra below
    have none : high.units * den < 0 := Int.mul_neg_of_neg_of_pos (by omega) divisor
    have some : (0 : Int) ≤ num * unitsPerOne :=
      Int.mul_nonneg (Int.natCast_nonneg _) (Int.natCast_nonneg _)
    omega
  have far : high.units = high.magnitude := by
    rcases high.units_eq with h | h <;> omega
  have top : nearestPosition num den ≤ high.position := by
    refine nearestPosition_le_position hd ?_
    rw [far] at hh
    exact_mod_cast hh
  obtain ⟨x, hx⟩ := exists_ofRatio negative (lt_of_le_of_lt top high.position.isLt)
  obtain ⟨sign, position⟩ := eq_of_ofRatio hx
  refine ⟨x, hx, sign, ?_, ?_⟩
  · rcases lt_or_ge 0 low.units with positive | below
    · have near : low.units = low.magnitude := by
        rcases low.units_eq with h | h <;> omega
      rw [near] at hl ⊢
      have bottom : (low.position : Nat) ≤ nearestPosition num den :=
        position_le_nearestPosition hd (by exact_mod_cast hl)
      rw [← position] at bottom
      exact_mod_cast unitsAt_mono bottom
    · omega
  · rw [← position] at top
    rw [far]
    exact_mod_cast unitsAt_mono top

theorem exists_ofRatio_between {n : Int} (hd : 0 < den)
    (hl : low.units * den ≤ n * unitsPerOne) (hh : n * unitsPerOne ≤ high.units * den) :
    ∃ x, Binary64.ofRatio (decide (n < 0)) n.natAbs den = .finite x ∧
      low.units ≤ x.units ∧ x.units ≤ high.units := by
  by_cases hn : n < 0
  · -- On the other side of zero the bounds change places.
    have size : (n.natAbs : Int) = -n := by omega
    have hl' : -high.units * den ≤ (n.natAbs : Int) * unitsPerOne := by
      rw [size, Int.neg_mul, Int.neg_mul]
      exact Int.neg_le_neg hh
    have hh' : (n.natAbs : Int) * unitsPerOne ≤ -low.units * den := by
      rw [size, Int.neg_mul, Int.neg_mul]
      exact Int.neg_le_neg hl
    rw [← Finite64.units_opposite] at hl' hh'
    obtain ⟨x, hx, sign, near, far⟩ := exists_ofRatio_magnitude true _ _ hd hl' hh'
    rw [Finite64.units_opposite] at near far
    have side : x.units = -x.magnitude := if_pos sign
    rw [decide_eq_true hn]
    exact ⟨x, hx, by omega, by omega⟩
  · have size : (n.natAbs : Int) = n := by omega
    rw [← size] at hl hh
    obtain ⟨x, hx, sign, near, far⟩ := exists_ofRatio_magnitude false low high hd hl hh
    have side : x.units = x.magnitude := if_neg (by rw [sign]; exact Bool.false_ne_true)
    rw [decide_eq_false hn]
    exact ⟨x, hx, by omega, by omega⟩

end Between

end FieldSchema
