import FieldSchema.Proofs.Number.Nearest
import FieldSchema.Proofs.Number.Scan

/-! The text of a double reads back as the double. The digits are chosen so that they do; dropping
zeros at their end and placing the point only trade digits for powers of ten. -/
namespace FieldSchema

namespace Finite64

theorem eq_zero_of_magnitude {x : Finite64} (h : x.magnitude = 0) : x = zero x.negative := by
  have position := nearestPosition_unitsAt x.position
  have zero : nearestPosition (unitsAt x.position) unitsPerOne = 0 := by
    have none : unitsAt x.position = 0 := h
    apply nearestPosition_eq_zero
    rw [none, zero_mul, mul_zero]
    exact unitsPerOne_pos
  obtain ⟨negative, p⟩ := x
  have hp : p = ⟨0, by decide⟩ := Fin.ext (position.symm.trans zero)
  rw [hp]
  rfl

theorem exactDecimal_toBinary64 (x : Finite64) :
    x.exactDecimal.toBinary64 x.negative = .finite x := by
  have up : (-1074 : Int).toNat = 0 := rfl
  have down : (- -1074 : Int).toNat = fractionBits := rfl
  have bits : 1074 = fractionBits := rfl
  have scaled : x.magnitude * 5 ^ fractionBits * 10 ^ 0 * unitsPerOne =
      x.magnitude * 10 ^ fractionBits := by
    have ten : ∀ n : Nat, 5 ^ n * 2 ^ n = 10 ^ n := fun n => (mul_pow 5 2 n).symm
    rw [pow_zero, mul_one, unitsPerOne, mul_assoc, ten]
  unfold exactDecimal Decimal.toBinary64
  dsimp only
  rw [Binary64.ofDecimal_eq_ofRatio, up, down, bits,
    Binary64.ofRatio_congr (by positivity) unitsPerOne_pos scaled]
  exact Binary64.ofRatio_magnitude x

theorem withDigits?_toBinary64 {x : Finite64} {count : Nat} {d : Decimal}
    (h : x.withDigits? count = some d) : d.toBinary64 x.negative = .finite x := by
  unfold withDigits? at h
  have found := List.find?_some h
  exact of_decide_eq_true found

theorem shortest_toBinary64 (x : Finite64) : x.shortest.toBinary64 x.negative = .finite x := by
  unfold shortest
  by_cases hz : x.magnitude = 0
  · rw [if_pos hz]
    exact congrArg Binary64.finite (eq_zero_of_magnitude hz).symm
  · rw [if_neg hz]
    cases h : (List.range 17).findSome? fun n => x.withDigits? (n + 1) with
    | none => exact exactDecimal_toBinary64 x
    | some d =>
      obtain ⟨n, -, hn⟩ := List.exists_of_findSome?_eq_some h
      exact withDigits?_toBinary64 hn

end Finite64

namespace Decimal

theorem append_zeros (s : List Char) : ∃ k,
    s = (s.reverse.dropWhile (· == '0')).reverse ++ List.replicate k '0' := by
  have parts := List.takeWhile_append_dropWhile (p := (· == '0')) (l := s.reverse)
  have zeros : s.reverse.takeWhile (· == '0') =
      List.replicate (s.reverse.takeWhile (· == '0')).length '0' := by
    refine List.eq_replicate_iff.2 ⟨rfl, fun c hc => ?_⟩
    have all := List.all_eq_true.1 (List.all_takeWhile (p := (· == '0')) (l := s.reverse)) c hc
    exact eq_of_beq all
  refine ⟨(s.reverse.takeWhile (· == '0')).length, ?_⟩
  rw [← List.reverse_replicate, ← zeros, ← List.reverse_append, parts, List.reverse_reverse]

/-- The significant digits are digits, the first of them is no zero, and with the power of ten of
the first they say the same number. -/
theorem significant_spec (d : Decimal) (negative : Bool) :
    (∀ c ∈ d.significant.1, c.isDigit) ∧ d.significant.1.head? ≠ some '0' ∧
      Binary64.ofDecimal negative (NumberLiteral.natOfDigits d.significant.1)
        (d.significant.2 + 1 - d.significant.1.length) = d.toBinary64 negative := by
  obtain ⟨k, hk⟩ := append_zeros (Nat.toDigits 10 d.digits)
  have value := NumberLiteral.natOfDigits_toDigits d.digits
  have whole := NumberLiteral.whole_toDigits d.digits
  unfold significant toBinary64
  dsimp only
  have last : ((Nat.toDigits 10 d.digits).reverse.dropWhile (· == '0')).reverse.getLast? ≠
      some '0' := by
    intro h
    rw [List.getLast?_reverse] at h
    have stop := List.head?_dropWhile_not (· == '0') (Nat.toDigits 10 d.digits).reverse
    rw [h] at stop
    simp at stop
  generalize ((Nat.toDigits 10 d.digits).reverse.dropWhile (· == '0')).reverse = s at hk last
  rw [hk] at value whole
  refine ⟨?_, ?_, ?_⟩
  · intro c hc
    exact whole.1.2 c (by simp [hc])
  · intro h
    have all := whole.2 (by rw [List.head?_append, h]; rfl)
    obtain ⟨t, rfl⟩ : ∃ t, s = '0' :: t := by
      cases s with
      | nil => simp at h
      | cons c t => exact ⟨t, by simpa using h⟩
    have none : t = [] := by
      have short := congrArg List.length all
      simp at short
      exact short.1
    subst none
    simp at last
  · have power : d.exponent + (Nat.toDigits 10 d.digits).length - 1 + 1 - s.length =
        d.exponent + k := by
      rw [hk, List.length_append, List.length_replicate]
      omega
    rw [power, ← Binary64.ofDecimal_mul_pow]
    rw [NumberLiteral.natOfDigits_append, NumberLiteral.natOfDigits_zeros, List.length_replicate,
      add_zero] at value
    rw [value]

end Decimal
end FieldSchema
