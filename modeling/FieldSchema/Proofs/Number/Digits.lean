import FieldSchema.Json.Problem
import FieldSchema.Number.Literal
import Mathlib.Tactic.Ring

/-! Decimal digits. A number has one text without zeros in front and, for every width that is large
enough, one text of that width; both read back as the number. -/
namespace FieldSchema

/-- The last `width` digits of a number, with zeros in front. -/
def fixedDigits : (width n : Nat) → List Char
  | 0, _ => []
  | width + 1, n => Nat.digitChar (n / 10 ^ width % 10) :: fixedDigits width n

theorem fixedDigits_one {n : Nat} (h : n < 10) : fixedDigits 1 n = [Nat.digitChar n] := by
  rw [fixedDigits, fixedDigits, pow_zero, Nat.div_one, Nat.mod_eq_of_lt h]

theorem length_fixedDigits (width n : Nat) : (fixedDigits width n).length = width := by
  induction width with
  | zero => rfl
  | succ width ih => rw [fixedDigits, List.length_cons, ih]

theorem isDigit_of_mem_fixedDigits {width n : Nat} {c : Char} (h : c ∈ fixedDigits width n) :
    c.isDigit := by
  induction width with
  | zero => exact absurd h List.not_mem_nil
  | succ width ih =>
    rcases List.mem_cons.1 h with rfl | h
    · rw [Nat.isDigit_digitChar]
      exact decide_eq_true (Nat.mod_lt _ (by omega))
    · exact ih h

theorem fixedDigits_mod {width w : Nat} (h : width ≤ w) (n : Nat) :
    fixedDigits width (n % 10 ^ w) = fixedDigits width n := by
  induction width with
  | zero => rfl
  | succ width ih =>
    obtain ⟨k, rfl⟩ := Nat.exists_eq_add_of_le h
    have split : 10 ^ (width + 1 + k) = 10 ^ width * 10 ^ (k + 1) := by ring
    have front : n % 10 ^ (width + 1 + k) / 10 ^ width % 10 = n / 10 ^ width % 10 := by
      rw [split, Nat.mod_mul_right_div_self, Nat.mod_mod_of_dvd _ (dvd_pow_self 10 k.succ_ne_zero)]
    rw [fixedDigits, fixedDigits, front, ih (by omega)]

theorem fixedDigits_cons {width d m : Nat} (hd : d < 10) (hm : m < 10 ^ width) :
    fixedDigits (width + 1) (d * 10 ^ width + m) = Nat.digitChar d :: fixedDigits width m := by
  have unit : 0 < 10 ^ width := Nat.pow_pos (by omega)
  have quotient : (d * 10 ^ width + m) / 10 ^ width = d := by
    rw [mul_comm, Nat.mul_add_div unit, Nat.div_eq_of_lt hm, add_zero]
  have rest : (d * 10 ^ width + m) % 10 ^ width = m := by
    rw [mul_comm, Nat.mul_add_mod, Nat.mod_eq_of_lt hm]
  rw [fixedDigits, quotient, Nat.mod_eq_of_lt hd, ← fixedDigits_mod le_rfl, rest]

theorem fixedDigits_concat (width n : Nat) : fixedDigits (width + 1) n =
    fixedDigits width (n / 10) ++ [Nat.digitChar (n % 10)] := by
  induction width with
  | zero => simp [fixedDigits]
  | succ width ih =>
    have front : n / 10 ^ (width + 1) = n / 10 / 10 ^ width := by
      rw [Nat.div_div_eq_div_mul, pow_succ']
    rw [fixedDigits, ih, fixedDigits, front, List.cons_append]

/-- The text without zeros in front is the one whose width the number fills. -/
theorem toDigits_eq_fixedDigits {width n : Nat} (hn : n < 10 ^ (width + 1))
    (h : width = 0 ∨ 10 ^ width ≤ n) : Nat.toDigits 10 n = fixedDigits (width + 1) n := by
  induction width generalizing n with
  | zero =>
    rw [Nat.toDigits_of_lt_base (by omega), fixedDigits_one (by omega)]
  | succ width ih =>
    have hle : 10 ^ (width + 1) ≤ n := h.resolve_left (by omega)
    have hten : 10 ≤ n := le_trans (Nat.le_self_pow (by omega) 10) hle
    have front : 10 ^ width ≤ n / 10 := by
      rw [Nat.le_div_iff_mul_le (by omega), ← pow_succ]
      exact hle
    have back : n / 10 < 10 ^ (width + 1) := by
      rw [Nat.div_lt_iff_lt_mul (by omega), ← pow_succ]
      exact hn
    rw [Nat.toDigits_of_base_le (by omega) hten, ih back (.inr front), ← fixedDigits_concat]

namespace NumberLiteral

theorem natOfDigits_eq (digits : List Char) :
    natOfDigits digits = Nat.ofDigitChars 10 digits 0 := by
  rw [natOfDigits, Nat.ofDigitChars]
  congr 1
  funext n c
  rw [mul_comm]

@[simp] theorem natOfDigits_toDigits (n : Nat) : natOfDigits (Nat.toDigits 10 n) = n := by
  rw [natOfDigits_eq, Nat.ofDigitChars_ten_toDigits]

theorem natOfDigits_append (a b : List Char) :
    natOfDigits (a ++ b) = natOfDigits a * 10 ^ b.length + natOfDigits b := by
  rw [natOfDigits_eq, natOfDigits_eq, natOfDigits_eq, Nat.ofDigitChars_append,
    Nat.ofDigitChars_eq_ofDigitChars_zero (l := b), mul_comm]

theorem natOfDigits_fixedDigits (width n : Nat) :
    natOfDigits (fixedDigits width n) = n % 10 ^ width := by
  induction width generalizing n with
  | zero => simp [fixedDigits, natOfDigits, Nat.mod_one]
  | succ width ih =>
    have digit : natOfDigits [Nat.digitChar (n % 10)] = n % 10 := by
      rw [← Nat.toDigits_of_lt_base (Nat.mod_lt n (by omega)), natOfDigits_toDigits]
    rw [fixedDigits_concat, natOfDigits_append, ih, digit, List.length_singleton, pow_one,
      pow_succ', Nat.mod_mul]
    ring

theorem fixedDigits_inj {width m n : Nat} (hm : m < 10 ^ width) (hn : n < 10 ^ width)
    (h : fixedDigits width m = fixedDigits width n) : m = n := by
  have value := congrArg natOfDigits h
  rwa [natOfDigits_fixedDigits, natOfDigits_fixedDigits, Nat.mod_eq_of_lt hm,
    Nat.mod_eq_of_lt hn] at value

theorem natOfDigits_lt {digits : List Char} (h : ∀ c ∈ digits, c.isDigit) :
    natOfDigits digits < 10 ^ digits.length := by
  induction digits with
  | nil => simp [natOfDigits]
  | cons c digits ih =>
    obtain ⟨hc, hdigits⟩ := List.forall_mem_cons.1 h
    have value : natOfDigits [c] < 10 := by
      simp only [Char.isDigit, Bool.and_eq_true, decide_eq_true_eq] at hc
      have high : c.toNat ≤ 57 := hc.2
      simp [natOfDigits]
      omega
    have split := natOfDigits_append [c] digits
    rw [List.singleton_append] at split
    have room := Nat.mul_le_mul_right (10 ^ digits.length) (Nat.le_of_lt_succ value)
    have rest := ih hdigits
    rw [split, List.length_cons, pow_succ']
    omega

@[simp] theorem natOfDigits_zeros (n : Nat) : natOfDigits (List.replicate n '0') = 0 := by
  rw [natOfDigits_eq, Nat.ofDigitChars_replicate_zero, mul_zero]

end NumberLiteral

theorem isDigit_of_mem_toDigits {n : Nat} {c : Char} (h : c ∈ Nat.toDigits 10 n) : c.isDigit :=
  Nat.isDigit_of_mem_toDigits (by omega) (by omega) h

theorem isDigit_ne {c d : Char} (hc : c.isDigit) (hd : d.isDigit = false) : c ≠ d := by
  intro h
  rw [h, hd] at hc
  exact Bool.false_ne_true hc

theorem toDigits_injective : Function.Injective (Nat.toDigits 10) := by
  intro m n h
  rw [← NumberLiteral.natOfDigits_toDigits m, h, NumberLiteral.natOfDigits_toDigits]

theorem head_toDigits {n : Nat} (h : n ≠ 0) : (Nat.toDigits 10 n).head? ≠ some '0' := by
  induction n using Nat.strongRecOn with
  | ind n ih =>
    by_cases hlt : n < 10
    · rw [Nat.toDigits_of_lt_base hlt]
      simpa using h
    · have hne : n / 10 ≠ 0 := by omega
      have front := ih (n / 10) (by omega) hne
      rw [Nat.toDigits_of_base_le (by omega) (by omega), List.head?_append]
      obtain ⟨c, s, hs⟩ := List.exists_cons_of_ne_nil (Nat.toDigits_ne_nil (n := n / 10) (b := 10))
      rw [hs] at front ⊢
      simpa using front

theorem length_toDigits_eq_iff {width n : Nat} : (Nat.toDigits 10 n).length = width + 1 ↔
    n < 10 ^ (width + 1) ∧ (width = 0 ∨ 10 ^ width ≤ n) := by
  have upper := Nat.length_toDigits_le_iff (n := n) (k := width + 1) (show 1 < 10 by omega)
    (by omega)
  have pos := Nat.length_toDigits_pos (b := 10) (n := n)
  cases width with
  | zero => omega
  | succ width =>
    have lower := Nat.length_toDigits_le_iff (n := n) (k := width + 1) (show 1 < 10 by omega)
      (by omega)
    omega

theorem length_toDigits_mono {m n : Nat} (h : m ≤ n) :
    (Nat.toDigits 10 m).length ≤ (Nat.toDigits 10 n).length := by
  have pos := Nat.length_toDigits_pos (b := 10) (n := n)
  rw [Nat.length_toDigits_le_iff (by omega) pos]
  exact lt_of_le_of_lt h ((Nat.length_toDigits_le_iff (by omega) pos).1 le_rfl)

theorem length_toDigits_ten_pow (k : Nat) :
    (Nat.toDigits 10 (10 ^ k : Int).natAbs).length = k + 1 := by
  have size : (10 ^ k : Int).natAbs = 10 ^ k := by
    rw [Int.natAbs_pow]
    rfl
  rw [size]
  exact length_toDigits_eq_iff.2 ⟨Nat.pow_lt_pow_right (by omega) (by omega), .inr le_rfl⟩

def integerText (n : Int) : List Char := (toString n).toList

theorem integerText_of_nonneg {n : Int} (h : 0 ≤ n) :
    integerText n = Nat.toDigits 10 n.toNat := by
  rw [integerText, Int.toString_eq_repr, Int.repr_eq_if, if_pos h, Nat.toList_repr]

theorem integerText_of_neg {n : Int} (h : n < 0) :
    integerText n = '-' :: Nat.toDigits 10 (-n).toNat := by
  rw [integerText, Int.toString_eq_repr, Int.repr_eq_if, if_neg (by omega), String.toList_append,
    Nat.toList_repr]
  rfl

theorem integerText_injective : Function.Injective integerText := by
  have sign : ∀ m n : Int, m < 0 → 0 ≤ n → integerText m ≠ integerText n := by
    intro m n hm hn h
    rw [integerText_of_neg hm, integerText_of_nonneg hn] at h
    have minus : '-' ∈ Nat.toDigits 10 n.toNat := by simp [← h]
    exact absurd (isDigit_of_mem_toDigits minus) (by decide)
  intro m n h
  rcases lt_or_ge m 0 with hm | hm <;> rcases lt_or_ge n 0 with hn | hn
  · rw [integerText_of_neg hm, integerText_of_neg hn] at h
    have := toDigits_injective (List.cons.inj h).2
    omega
  · exact absurd h (sign m n hm hn)
  · exact absurd h.symm (sign n m hn hm)
  · rw [integerText_of_nonneg hm, integerText_of_nonneg hn] at h
    have := toDigits_injective h
    omega

/-- A sign or a digit in front. -/
def StartsNumber (s : List Char) : Prop := ∃ c t, s = c :: t ∧ (c = '-' ∨ c.isDigit)

theorem StartsNumber.head?_ne {s : List Char} (h : StartsNumber s) {c : Char} (minus : c ≠ '-')
    (digit : c.isDigit = false) : s.head? ≠ some c := by
  obtain ⟨d, t, rfl, hd⟩ := h
  intro same
  obtain rfl := Option.some.inj same
  rcases hd with hd | hd
  · exact minus hd
  · exact Bool.false_ne_true (digit.symm.trans hd)

theorem startsNumber_append {s : List Char} (h : StartsNumber s) (t : List Char) :
    StartsNumber (s ++ t) := by
  obtain ⟨c, u, rfl, hc⟩ := h
  exact ⟨c, u ++ t, rfl, hc⟩

theorem startsNumber_toDigits (n : Nat) : StartsNumber (Nat.toDigits 10 n) := by
  obtain ⟨c, s, hs⟩ := List.exists_cons_of_ne_nil (Nat.toDigits_ne_nil (n := n) (b := 10))
  refine ⟨c, s, hs, .inr (isDigit_of_mem_toDigits (n := n) ?_)⟩
  rw [hs]
  exact List.mem_cons_self

theorem startsNumber_integerText (n : Int) : StartsNumber (integerText n) := by
  rcases lt_or_ge n 0 with h | h
  · exact ⟨'-', _, integerText_of_neg h, .inl rfl⟩
  · rw [integerText_of_nonneg h]
    exact startsNumber_toDigits _

/-- An integer of no more digits than a reader takes. -/
def Legible (n : Int) : Prop := (Nat.toDigits 10 n.natAbs).length ≤ Json.digitLimit

instance : DecidablePred Legible := fun _ => inferInstanceAs (Decidable (_ ≤ _))

/-- An integer between two legible ones is no longer than the longer of them. -/
theorem Legible.between {low high n : Int} (hl : Legible low) (hh : Legible high) (h₁ : low ≤ n)
    (h₂ : n ≤ high) : Legible n := by
  unfold Legible at hl hh ⊢
  by_cases hn : n < 0
  · exact le_trans (length_toDigits_mono (by omega)) hl
  · exact le_trans (length_toDigits_mono (by omega)) hh

end FieldSchema
