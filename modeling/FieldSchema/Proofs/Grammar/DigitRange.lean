import FieldSchema.Grammar.DigitRange
import FieldSchema.Proofs.Grammar.Repetition
import FieldSchema.Proofs.Number.Digits

/-! What the digit patterns of number ranges derive: the texts of exactly the numbers in the range.
A range of one width is split at its first digit, and the digits after it form ranges again. -/
namespace FieldSchema.Grammar

variable {rules : List (String × Production)} {admits : String → List Char → Prop}
  {w : List Char}

/-- Digits stand in the order of their numbers, with nothing else among them. -/
theorem digitChar_le_iff {c : Char} {low high : Nat} (hl : low ≤ high) (hh : high < 10) :
    Nat.digitChar low ≤ c ∧ c ≤ Nat.digitChar high ↔
      ∃ d, low ≤ d ∧ d ≤ high ∧ c = Nat.digitChar d := by
  have order : ∀ x y : Char, x ≤ y ↔ x.toNat ≤ y.toNat := fun _ _ => Iff.rfl
  rw [order, order, Nat.toNat_digitChar_of_lt_ten (by omega), Nat.toNat_digitChar_of_lt_ten hh]
  constructor
  · rintro ⟨h₁, h₂⟩
    refine ⟨c.toNat - 48, by omega, by omega, Char.toNat_inj.1 ?_⟩
    rw [Nat.toNat_digitChar_of_lt_ten (by omega)]
    omega
  · rintro ⟨d, h₁, h₂, rfl⟩
    rw [Nat.toNat_digitChar_of_lt_ten (by omega)]
    omega

theorem derives_digit {low high : Nat} (hl : low ≤ high) (hh : high < 10) :
    Derives rules admits [digit low high] w ↔
      ∃ d, low ≤ d ∧ d ≤ high ∧ w = [Nat.digitChar d] := by
  unfold digit
  split
  next he =>
    subst he
    rw [derives_text, Nat.toString_eq_ofList_toDigits, String.toList_ofList,
      Nat.toDigits_of_lt_base hh]
    constructor
    · rintro rfl
      exact ⟨low, le_rfl, le_rfl, rfl⟩
    · rintro ⟨d, h₁, h₂, rfl⟩
      rw [Nat.le_antisymm h₁ h₂]
  next =>
    rw [Item.digits, derives_oneOf]
    constructor
    · rintro ⟨c, hc, rfl⟩
      have between : Nat.digitChar low ≤ c ∧ c ≤ Nat.digitChar high := by
        simpa [inClass] using hc
      obtain ⟨d, h₁, h₂, rfl⟩ := (digitChar_le_iff hl hh).1 between
      exact ⟨d, h₁, h₂, rfl⟩
    · rintro ⟨d, h₁, h₂, rfl⟩
      have between := (digitChar_le_iff hl hh).2 ⟨d, h₁, h₂, rfl⟩
      exact ⟨_, by simpa [inClass] using between, rfl⟩

/-- Patterns of one width with the numbers that they are for. A digit stands in front of patterns
for the digits after it, and patterns stand beside others if no number is for both. -/
inductive Patterns : (width : Nat) → (Nat → Prop) → Production → Prop where
  | done : Patterns 0 (fun _ => True) [[]]
  | none {width : Nat} : Patterns width (fun _ => False) []
  | front {width low high : Nat} {rest : Nat → Prop} {p : Production} : low ≤ high → high < 10 →
    Patterns width rest p → Patterns (width + 1)
      (fun n => low ≤ n / 10 ^ width ∧ n / 10 ^ width ≤ high ∧ rest (n % 10 ^ width))
      (p.map (digit low high :: ·))
  | beside {width : Nat} {numbers others : Nat → Prop} {p q : Production} :
    (∀ n, numbers n → ¬ others n) → Patterns width numbers p → Patterns width others q →
    Patterns width (fun n => numbers n ∨ others n) (p ++ q)
  | congr {width : Nat} {numbers others : Nat → Prop} {p : Production} :
    (∀ n, n < 10 ^ width → (others n ↔ numbers n)) → Patterns width numbers p →
    Patterns width others p

namespace Patterns

variable {width low high : Nat} {numbers rest : Nat → Prop} {p : Production}

theorem produces (h : Patterns width numbers p) : Produces rules admits p w ↔
    ∃ n, n < 10 ^ width ∧ numbers n ∧ w = fixedDigits width n := by
  induction h generalizing w with
  | done =>
    rw [produces_singleton, derives_nil]
    constructor
    · rintro rfl
      exact ⟨0, by simp, trivial, rfl⟩
    · rintro ⟨m, -, -, rfl⟩
      rfl
  | none =>
    simp only [false_and, and_false, exists_false, produces_nil]
  | @front width low high rest p hl hh _ ih =>
    have unit : 0 < 10 ^ width := Nat.pow_pos (by omega)
    rw [produces_map_cons]
    constructor
    · rintro ⟨u, v, rfl, hu, hv⟩
      obtain ⟨d, h₁, h₂, rfl⟩ := (derives_digit hl hh).1 hu
      obtain ⟨m, hm, hr, rfl⟩ := ih.1 hv
      have quotient : (10 ^ width * d + m) / 10 ^ width = d := by
        rw [Nat.mul_add_div unit, Nat.div_eq_of_lt hm, add_zero]
      have remainder : (10 ^ width * d + m) % 10 ^ width = m := by
        rw [Nat.mul_add_mod, Nat.mod_eq_of_lt hm]
      refine ⟨10 ^ width * d + m, ?_, ?_, ?_⟩
      · have hd : 10 ^ width * d ≤ 10 ^ width * 9 := Nat.mul_le_mul_left _ (by omega)
        rw [pow_succ]
        omega
      · dsimp only
        rw [quotient, remainder]
        exact ⟨h₁, h₂, hr⟩
      · rw [mul_comm, fixedDigits_cons (by omega) hm]
        rfl
    · rintro ⟨n, hn, ⟨h₁, h₂, hr⟩, rfl⟩
      have hm : n % 10 ^ width < 10 ^ width := Nat.mod_lt n unit
      refine ⟨[Nat.digitChar (n / 10 ^ width)], fixedDigits width (n % 10 ^ width), ?_,
        (derives_digit hl hh).2 ⟨_, h₁, h₂, rfl⟩, ih.2 ⟨_, hm, hr, rfl⟩⟩
      have whole := fixedDigits_cons (d := n / 10 ^ width) (by omega) hm
      rw [mul_comm, Nat.div_add_mod] at whole
      exact whole
  | beside _ _ _ ih₁ ih₂ =>
    rw [produces_append, ih₁, ih₂, ← exists_or]
    simp only [← and_or_left, ← or_and_right]
  | congr same _ ih =>
    rw [ih]
    refine exists_congr fun n => and_congr_right fun hn => ?_
    rw [same n hn]

theorem forall_mem {Q : Item → Prop}
    (single : ∀ {d e : Nat}, d ≤ e → e < 10 → Q (digit d e)) (h : Patterns width numbers p) :
    ∀ s ∈ p, ∀ i ∈ s, Q i := by
  induction h with
  | done => simp
  | none => simp
  | front hl hh _ ih =>
    intro s hs
    obtain ⟨t, ht, rfl⟩ := List.mem_map.1 hs
    exact List.forall_mem_cons.2 ⟨single hl hh, ih t ht⟩
  | beside _ _ _ ih₁ ih₂ => exact List.forall_mem_append.2 ⟨ih₁, ih₂⟩
  | congr _ _ ih => exact ih

theorem free (width : Nat) : Patterns width (fun _ => True) [List.replicate width anyDigit] := by
  induction width with
  | zero => exact .done
  | succ width ih =>
    refine .congr (fun n hn => ?_) (front (Nat.zero_le 9) (by omega) ih)
    have hq : n / 10 ^ width < 10 := by
      rw [Nat.div_lt_iff_lt_mul (Nat.pow_pos (by omega)), mul_comm, ← pow_succ]
      exact hn
    exact iff_of_true trivial ⟨Nat.zero_le _, Nat.le_of_lt_succ hq, trivial⟩

/-- A digit in front of patterns that are only there under a condition. -/
theorem front_if {c : Prop} [Decidable c] (hl : c → low ≤ high) (hh : c → high < 10)
    (hp : c → Patterns width rest p) : Patterns (width + 1)
      (fun n => c ∧ low ≤ n / 10 ^ width ∧ n / 10 ^ width ≤ high ∧ rest (n % 10 ^ width))
      (if c then p.map (digit low high :: ·) else []) := by
  by_cases h : c
  · rw [if_pos h]
    exact .congr (fun n _ => and_iff_right h) (front (hl h) (hh h) (hp h))
  · rw [if_neg h]
    exact .congr (fun n _ => iff_false_intro fun hn => h hn.1) .none

end Patterns

theorem derives_anyDigit (u : List Char) :
    Derives rules admits [anyDigit] u ↔ ∃ c, c.isDigit ∧ u = [c] := by
  have item : anyDigit = .oneOf true [('0', '9')] := rfl
  rw [item, derives_oneOf]
  simp [inClass, Char.isDigit, Char.le_def]

/-- Numbers compare by their quotients, and where these agree by their remainders. -/
theorem le_iff_div_mod {unit : Nat} (hu : 0 < unit) (a b : Nat) :
    a ≤ b ↔ a / unit < b / unit ∨ a / unit = b / unit ∧ a % unit ≤ b % unit := by
  have ha := Nat.div_add_mod a unit
  have hb := Nat.div_add_mod b unit
  have hra := Nat.mod_lt a hu
  have hrb := Nat.mod_lt b hu
  rcases lt_trichotomy (a / unit) (b / unit) with h | h | h
  · have := Nat.mul_le_mul_left unit (Nat.succ_le_of_lt h)
    rw [Nat.mul_succ] at this
    constructor
    · exact fun _ => .inl h
    · intro _
      omega
  · rw [h] at ha
    omega
  · have := Nat.mul_le_mul_left unit (Nat.succ_le_of_lt h)
    rw [Nat.mul_succ] at this
    omega

/-- The patterns of one width are for the numbers of the range: those with the first digit of the
lower bound, if not all of them, those with a digit between, and those with that of the upper. -/
theorem patterns_fixedWidth {low high width : Nat} (hw : width ≠ 0) (hl : low ≤ high)
    (hh : high < 10 ^ width) :
    Patterns width (fun n => low ≤ n ∧ n ≤ high) (fixedWidth low high width) := by
  induction width generalizing low high with
  | zero => exact absurd rfl hw
  | succ width ih =>
    cases width with
    | zero =>
      rw [zero_add, pow_one] at hh
      exact .congr (fun n _ => by simp) (.front hl hh .done)
    | succ width =>
      have unit : 0 < 10 ^ (width + 1) := Nat.pow_pos (by omega)
      have lastDigit : high / 10 ^ (width + 1) < 10 := by
        rw [Nat.div_lt_iff_lt_mul unit, mul_comm, ← pow_succ]
        exact hh
      have lowLex := le_iff_div_mod unit low
      have highLex := fun n => le_iff_div_mod unit n high
      have lowHigh := lowLex high |>.1 hl
      have hrl := Nat.mod_lt low unit
      have hrh := Nat.mod_lt high unit
      rw [fixedWidth]
      · dsimp only
        generalize low / 10 ^ (width + 1) = first at *
        generalize high / 10 ^ (width + 1) = last at *
        generalize low % 10 ^ (width + 1) = restLow at *
        generalize high % 10 ^ (width + 1) = restHigh at *
        split
        next he =>
          subst he
          refine .congr (fun n _ => ?_) (.front le_rfl lastDigit (ih (by omega) (by omega) hrh))
          rw [lowLex, highLex]
          omega
        next hne =>
          generalize hmost : 10 ^ (width + 1) - 1 = most at *
          have below := Patterns.front_if (c := restLow ≠ 0) (fun _ => le_rfl)
            (fun _ => by omega : restLow ≠ 0 → first < 10)
            fun hc => @ih restLow most (by omega) (by omega) (by omega)
          have full := Patterns.front_if
            (c := (if restLow = 0 then first else first + 1) ≤
              if restHigh = most then last else last - 1) id (fun _ => by split <;> omega)
            fun _ => .free (width + 1)
          have above := Patterns.front_if (c := restHigh ≠ most) (fun _ => le_rfl)
            (fun _ => lastDigit)
            fun hc => @ih 0 restHigh (by omega) (by omega) (by omega)
          rw [ite_not] at below above
          rw [List.map_singleton] at full
          have parts := Patterns.beside (fun n => ?_) (.beside (fun n => ?_) below full) above
          · refine .congr (fun n _ => ?_) parts
            have hn := Nat.mod_lt n unit
            rw [lowLex, highLex]
            clear below full above parts ih lowLex highLex
            by_cases h₁ : restLow = 0 <;> by_cases h₂ : restHigh = most <;>
              simp only [h₁, h₂, if_true, if_false, and_true] <;> omega
          · split <;> split <;> omega
          · split <;> omega
      · omega

theorem produces_fixedWidth {low high width : Nat} (hw : width ≠ 0) (hl : low ≤ high)
    (hh : high < 10 ^ width) : Produces rules admits (fixedWidth low high width) w ↔
      ∃ n, n < 10 ^ width ∧ (low ≤ n ∧ n ≤ high) ∧ w = fixedDigits width n :=
  (patterns_fixedWidth hw hl hh).produces

theorem produces_band {low high width : Nat} :
    Produces rules admits (band low high (width + 1)) w ↔
      ∃ n, low ≤ n ∧ n ≤ high ∧ digitCount n = width + 1 ∧ w = Nat.toDigits 10 n := by
  have filled : ∀ n, digitCount n = width + 1 ↔
      (if width + 1 = 1 then 0 else 10 ^ (width + 1 - 1)) ≤ n ∧ n < 10 ^ (width + 1) := by
    intro n
    have zero : width + 1 = 1 ↔ width = 0 := by omega
    rw [digitCount, length_toDigits_eq_iff, Nat.add_sub_cancel]
    simp only [zero]
    split <;> omega
  have top : 0 < 10 ^ (width + 1) := Nat.pow_pos (by omega)
  have text : ∀ n, digitCount n = width + 1 →
      Nat.toDigits 10 n = fixedDigits (width + 1) n := by
    intro n hn
    obtain ⟨hlt, hle⟩ := length_toDigits_eq_iff.1 hn
    exact toDigits_eq_fixedDigits hlt hle
  unfold band
  dsimp only
  generalize (if width + 1 = 1 then 0 else 10 ^ (width + 1 - 1)) = least at *
  split
  next h =>
    rw [produces_fixedWidth (by omega) h (by omega)]
    constructor
    · rintro ⟨n, hn, ⟨h₁, h₂⟩, rfl⟩
      have hc : digitCount n = width + 1 := (filled n).2 ⟨by omega, hn⟩
      exact ⟨n, by omega, by omega, hc, (text n hc).symm⟩
    · rintro ⟨n, h₁, h₂, hc, rfl⟩
      have hf := (filled n).1 hc
      exact ⟨n, hf.2, ⟨by omega, by omega⟩, text n hc⟩
  next h =>
    constructor
    · exact fun hp => absurd hp produces_nil
    · rintro ⟨n, h₁, h₂, hc, rfl⟩
      have hf := (filled n).1 hc
      omega

theorem produces_flatMap {α : Type} {xs : List α} {f : α → Production} :
    Produces rules admits (xs.flatMap f) w ↔ ∃ x ∈ xs, Produces rules admits (f x) w := by
  simp only [Produces, List.mem_flatMap]
  constructor
  · rintro ⟨s, ⟨x, hx, hs⟩, h⟩
    exact ⟨x, hx, s, hs, h⟩
  · rintro ⟨x, hx, s, hs, h⟩
    exact ⟨s, ⟨x, hx, hs⟩, h⟩

/-- Without zeros in front, the range is the union of its bands of one width. -/
theorem produces_naturalRange {low high : Nat} :
    Produces rules admits (naturalRange low high) w ↔
      ∃ n, low ≤ n ∧ n ≤ high ∧ w = Nat.toDigits 10 n := by
  have pos : 0 < digitCount low := Nat.length_toDigits_pos
  rw [naturalRange, produces_flatMap]
  constructor
  · rintro ⟨k, -, h⟩
    obtain ⟨width, hw⟩ := Nat.exists_eq_succ_of_ne_zero (show digitCount low + k ≠ 0 by omega)
    rw [hw] at h
    obtain ⟨n, h₁, h₂, -, rfl⟩ := produces_band.1 h
    exact ⟨n, h₁, h₂, rfl⟩
  · rintro ⟨n, h₁, h₂, rfl⟩
    have least : digitCount low ≤ digitCount n := length_toDigits_mono h₁
    have most : digitCount n ≤ digitCount high := length_toDigits_mono h₂
    obtain ⟨width, hw⟩ := Nat.exists_eq_succ_of_ne_zero (show digitCount n ≠ 0 by omega)
    refine ⟨digitCount n - digitCount low, List.mem_range.2 (by omega), ?_⟩
    rw [Nat.add_sub_cancel' least, hw]
    exact produces_band.2 ⟨n, h₁, h₂, hw, rfl⟩

theorem derives_minus : Derives rules admits [minus] w ↔ w = ['-'] := derives_text

/-- The alternatives with a minus sign are those of the integers below zero. -/
theorem produces_negatives {low high : Int} :
    Produces rules admits (if low < 0 then
      (naturalRange (-(min high (-1))).toNat (-low).toNat).map (minus :: ·) else []) w ↔
      ∃ n, low ≤ n ∧ n ≤ high ∧ n < 0 ∧ w = integerText n := by
  split
  next h =>
    rw [produces_map_cons]
    constructor
    · rintro ⟨u, v, rfl, hu, hv⟩
      obtain rfl := derives_minus.1 hu
      obtain ⟨m, h₁, h₂, rfl⟩ := produces_naturalRange.1 hv
      refine ⟨-m, by omega, by omega, by omega, ?_⟩
      rw [integerText_of_neg (by omega), Int.neg_neg, Int.toNat_natCast, List.singleton_append]
    · rintro ⟨n, h₁, h₂, h₃, rfl⟩
      exact ⟨['-'], _, integerText_of_neg h₃, derives_minus.2 rfl,
        produces_naturalRange.2 ⟨_, by omega, by omega, rfl⟩⟩
  next h =>
    constructor
    · exact fun hp => absurd hp produces_nil
    · rintro ⟨n, h₁, -, h₃, -⟩
      omega

theorem produces_naturals {low high : Int} :
    Produces rules admits
      (if 0 ≤ high then naturalRange (max low 0).toNat high.toNat else []) w ↔
      ∃ n, low ≤ n ∧ n ≤ high ∧ 0 ≤ n ∧ w = integerText n := by
  split
  next h =>
    rw [produces_naturalRange]
    constructor
    · rintro ⟨m, h₁, h₂, rfl⟩
      refine ⟨m, by omega, by omega, by omega, ?_⟩
      rw [integerText_of_nonneg (by omega), Int.toNat_natCast]
    · rintro ⟨n, h₁, h₂, h₃, rfl⟩
      exact ⟨n.toNat, by omega, by omega, integerText_of_nonneg h₃⟩
  next h =>
    constructor
    · exact fun hp => absurd hp produces_nil
    · rintro ⟨n, -, h₂, h₃, -⟩
      omega

theorem produces_integerRange {low high : Int} :
    Produces rules admits (integerRange low high) w ↔
      ∃ n, low ≤ n ∧ n ≤ high ∧ w = integerText n := by
  rw [integerRange, produces_append, produces_negatives, produces_naturals]
  constructor
  · rintro (⟨n, h₁, h₂, -, h⟩ | ⟨n, h₁, h₂, -, h⟩)
    · exact ⟨n, h₁, h₂, h⟩
    · exact ⟨n, h₁, h₂, h⟩
  · rintro ⟨n, h₁, h₂, h⟩
    rcases lt_or_ge n 0 with h₃ | h₃
    · exact .inl ⟨n, h₁, h₂, h₃, h⟩
    · exact .inr ⟨n, h₁, h₂, h₃, h⟩

section Items

variable {Q : Item → Prop} (single : ∀ {d e : Nat}, d ≤ e → e < 10 → Q (digit d e))

include single

theorem forall_mem_naturalRange {low high : Nat} :
    ∀ s ∈ naturalRange low high, ∀ i ∈ s, Q i := by
  intro s hs
  obtain ⟨n, -, hs⟩ := List.mem_flatMap.1 hs
  have width : digitCount low + n ≠ 0 := by
    have pos : 0 < digitCount low := Nat.length_toDigits_pos
    omega
  have unit : 0 < 10 ^ (digitCount low + n) := Nat.pow_pos (by omega)
  unfold band at hs
  dsimp only at hs
  generalize (if digitCount low + n = 1 then 0 else 10 ^ (digitCount low + n - 1)) = least at hs
  split at hs
  next h => exact (patterns_fixedWidth width h (by omega)).forall_mem single s hs
  next => simp at hs

theorem forall_mem_integerRange (sign : Q minus) {low high : Int} :
    ∀ s ∈ integerRange low high, ∀ i ∈ s, Q i := by
  intro s hs
  rcases List.mem_append.1 hs with hs | hs
  · split at hs
    next =>
      obtain ⟨t, ht, rfl⟩ := List.mem_map.1 hs
      exact List.forall_mem_cons.2 ⟨sign, forall_mem_naturalRange single t ht⟩
    next => simp at hs
  · split at hs
    next => exact forall_mem_naturalRange single s hs
    next => simp at hs

end Items

end FieldSchema.Grammar
