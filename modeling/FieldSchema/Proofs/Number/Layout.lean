import FieldSchema.Proofs.Number.Shortest

/-! Where the point of a double's text stands. Each layout is a literal with a point or an exponent,
whose digits and power of ten are those it was laid out from. -/
namespace FieldSchema

open NumberLiteral (natOfDigits scan? scanExponent Ends Digits Whole)

namespace Finite64

variable {digits rest : List Char} (negative : Bool) (exponent : Int)

/-- A literal of a double with these digits, the first of them standing for this power of ten. -/
def ReadsAs (l : NumberLiteral) (negative : Bool) (digits : List Char) (exponent : Int) : Prop :=
  l.isInteger = false ∧
    l.toBinary64 = .ofDecimal negative (natOfDigits digits) (exponent + 1 - digits.length)

/-- A literal with a point, whose digits and their number behind the point make the same double. -/
theorem exists_readsAs_decimal {whole fraction : List Char} (hw : Whole whole)
    (hf : Digits fraction) (hr : Ends rest)
    (value : Binary64.ofDecimal negative (natOfDigits (whole ++ fraction)) (0 - fraction.length) =
      .ofDecimal negative (natOfDigits digits) (exponent + 1 - digits.length)) :
    ∃ l, scan? ((if negative then ['-'] else []) ++ (whole ++ '.' :: fraction ++ rest)) =
      some (l, rest) ∧ ReadsAs l negative digits exponent := by
  have read := NumberLiteral.scan?_decimal negative hw hf hr
  rw [List.append_assoc, List.cons_append]
  exact ⟨_, read, rfl, value⟩

theorem scan?_layout_zero (hr : Ends rest) :
    ∃ l, scan? ((if negative then ['-'] else []) ++ (layout [] exponent ++ rest)) =
      some (l, rest) ∧ ReadsAs l negative [] exponent := by
  have zero : ∀ e, Binary64.ofDecimal negative 0 e = .finite (.zero negative) := fun e => rfl
  exact exists_readsAs_decimal negative exponent (NumberLiteral.whole_toDigits 0)
    (NumberLiteral.digits_toDigits 0) hr ((zero _).trans (zero _).symm)

theorem scan?_layout_small (hd : Digits digits) (hl : -4 ≤ exponent) (hh : exponent < 0)
    (hr : Ends rest) :
    ∃ l, scan? ((if negative then ['-'] else []) ++ (layout digits exponent ++ rest)) =
      some (l, rest) ∧ ReadsAs l negative digits exponent := by
  have shape : layout digits exponent =
      ['0'] ++ '.' :: (List.replicate (-exponent - 1).toNat '0' ++ digits) := by
    unfold layout
    rw [if_neg hd.1, if_pos ⟨hl, by omega⟩, if_pos hh]
    rfl
  have zero : ['0'] = List.replicate 1 '0' := rfl
  have count : (0 : Int) - (List.replicate (-exponent - 1).toNat '0' ++ digits).length =
      exponent + 1 - digits.length := by
    rw [List.length_append, List.length_replicate]
    omega
  rw [shape]
  refine exists_readsAs_decimal negative exponent (NumberLiteral.whole_toDigits 0)
    (hd.zeros_append _) hr ?_
  rw [count, zero, ← List.append_assoc, List.replicate_append_replicate,
    NumberLiteral.natOfDigits_append, NumberLiteral.natOfDigits_zeros, zero_mul, zero_add]

section Medium

variable {n : Nat}

/-- The point behind the digits and the zeros that fill up the whole part. -/
theorem scan?_layout_filled (hd : Digits digits) (hz : digits.head? ≠ some '0')
    (hh : (n : Int) < 16) (hlen : digits.length ≤ n + 1) (hr : Ends rest) :
    ∃ l, scan? ((if negative then ['-'] else []) ++ (layout digits n ++ rest)) =
      some (l, rest) ∧ ReadsAs l negative digits n := by
  have shape : layout digits n =
      (digits ++ List.replicate (n + 1 - digits.length) '0') ++ '.' :: ['0'] := by
    unfold layout
    rw [if_neg hd.1, if_pos ⟨by omega, hh⟩, if_neg (by omega)]
    simp [List.drop_eq_nil_of_le hlen, List.take_of_length_le hlen]
  have whole : Whole (digits ++ List.replicate (n + 1 - digits.length) '0') := by
    refine ⟨hd.append NumberLiteral.isDigit_of_mem_zeros, fun h => ?_⟩
    obtain ⟨c, s, rfl⟩ := List.exists_cons_of_ne_nil hd.1
    exact absurd h hz
  have zero : ['0'] = List.replicate 1 '0' := rfl
  have power : (0 : Int) - (1 : Nat) + (n + 1 - digits.length + 1 : Nat) =
      n + 1 - digits.length := by omega
  rw [shape]
  refine exists_readsAs_decimal negative n whole (NumberLiteral.digits_toDigits 0) hr ?_
  rw [zero, List.append_assoc, List.replicate_append_replicate,
    NumberLiteral.natOfDigits_append, NumberLiteral.natOfDigits_zeros, add_zero,
    List.length_replicate, List.length_replicate, Binary64.ofDecimal_mul_pow, power]

theorem scan?_layout_among (hd : Digits digits) (hz : digits.head? ≠ some '0')
    (hh : (n : Int) < 16) (hlen : n + 1 < digits.length) (hr : Ends rest) :
    ∃ l, scan? ((if negative then ['-'] else []) ++ (layout digits n ++ rest)) =
      some (l, rest) ∧ ReadsAs l negative digits n := by
  have more : digits.drop (n + 1) ≠ [] := by
    rw [ne_eq, List.drop_eq_nil_iff]
    omega
  have shape : layout digits n = digits.take (n + 1) ++ '.' :: digits.drop (n + 1) := by
    have none : n + 1 - digits.length = 0 := by omega
    unfold layout
    rw [if_neg hd.1, if_pos ⟨by omega, hh⟩, if_neg (by omega)]
    simp [more, none]
  have whole : Whole (digits.take (n + 1)) := by
    refine ⟨⟨by simp [hd.1], fun c hc => hd.2 c (List.mem_of_mem_take hc)⟩, fun h => ?_⟩
    rw [List.head?_take, if_neg (by omega)] at h
    exact absurd h hz
  have fraction : Digits (digits.drop (n + 1)) :=
    ⟨more, fun c hc => hd.2 c (List.mem_of_mem_drop hc)⟩
  have power : (0 : Int) - (digits.drop (n + 1)).length = n + 1 - digits.length := by
    rw [List.length_drop]
    omega
  rw [shape]
  refine exists_readsAs_decimal negative n whole fraction hr ?_
  rw [List.take_append_drop, power]

end Medium

section Power

/-- The power of ten behind the digits: a sign, and two digits or more. -/
def powerText : List Char :=
  'e' :: (if exponent < 0 then '-' else '+') ::
    (List.replicate (2 - (Nat.toDigits 10 exponent.natAbs).length) '0' ++
      Nat.toDigits 10 exponent.natAbs)

theorem scanExponent_powerText (hr : Ends rest) :
    scanExponent (powerText exponent ++ rest) = (some exponent, rest) := by
  unfold powerText
  generalize hp : List.replicate (2 - (Nat.toDigits 10 exponent.natAbs).length) '0' ++
    Nat.toDigits 10 exponent.natAbs = power
  have digits : Digits power := by
    subst hp
    exact (NumberLiteral.digits_toDigits _).zeros_append _
  have value : natOfDigits power = exponent.natAbs := by
    subst hp
    rw [NumberLiteral.natOfDigits_append, NumberLiteral.natOfDigits_zeros, zero_mul, zero_add,
      NumberLiteral.natOfDigits_toDigits]
  have mark := NumberLiteral.scanExponent_mark (decide (exponent < 0)) digits hr.noDigit
  have signed : (if decide (exponent < 0) then -(natOfDigits power : Int) else natOfDigits power) =
      exponent := by
    rw [value]
    by_cases h : exponent < 0
    · rw [decide_eq_true h, if_pos rfl]
      omega
    · rw [decide_eq_false h, if_neg Bool.false_ne_true]
      omega
  rw [signed] at mark
  simpa using mark

theorem scan?_layout_exponent (hd : Digits digits) (hz : digits.head? ≠ some '0')
    (hlarge : ¬ (-4 ≤ exponent ∧ exponent < 16)) (hr : Ends rest) :
    ∃ l, scan? ((if negative then ['-'] else []) ++ (layout digits exponent ++ rest)) =
      some (l, rest) ∧ ReadsAs l negative digits exponent := by
  obtain ⟨c, tail, rfl⟩ := List.exists_cons_of_ne_nil hd.1
  have whole : Whole [c] := by
    refine ⟨⟨by simp, fun d hm => hd.2 d ?_⟩, fun h => ?_⟩
    · rw [List.mem_singleton.1 hm]
      exact List.mem_cons_self
    · exact absurd h hz
  have shape : layout (c :: tail) exponent ++ rest =
      [c] ++ ((if tail = [] then [] else '.' :: tail) ++ (powerText exponent ++ rest)) := by
    unfold layout
    rw [if_neg (List.cons_ne_nil _ _), if_neg hlarge]
    simp [powerText, List.append_assoc]
  have mark := scanExponent_powerText exponent hr
  rw [shape]
  by_cases ht : tail = []
  · subst ht
    have point := @NumberLiteral.scanFraction_none (powerText exponent ++ rest)
      (by simp [powerText])
    rw [if_pos rfl, List.nil_append, NumberLiteral.scan?_append negative whole
      (by simp [powerText]), point, mark]
    refine ⟨_, rfl, rfl, ?_⟩
    unfold NumberLiteral.toBinary64
    simp
  · have fraction : Digits tail := ⟨ht, fun d hm => hd.2 d (List.mem_cons_of_mem _ hm)⟩
    have point := @NumberLiteral.scanFraction_point tail (powerText exponent ++ rest) fraction
      (by simp [powerText])
    rw [if_neg ht, NumberLiteral.scan?_append negative whole (by simp), List.cons_append, point,
      mark]
    refine ⟨_, rfl, rfl, ?_⟩
    have count : exponent - tail.length = exponent + 1 - (c :: tail).length := by
      rw [List.length_cons]
      omega
    unfold NumberLiteral.toBinary64
    dsimp only [Option.getD_some]
    rw [count, List.singleton_append]

end Power

theorem scan?_layout (hd : ∀ c ∈ digits, c.isDigit) (hz : digits.head? ≠ some '0')
    (hr : Ends rest) :
    ∃ l, scan? ((if negative then ['-'] else []) ++ (layout digits exponent ++ rest)) =
      some (l, rest) ∧ ReadsAs l negative digits exponent := by
  by_cases hne : digits = []
  · subst hne
    exact scan?_layout_zero negative exponent hr
  · have row : Digits digits := ⟨hne, hd⟩
    by_cases hrange : -4 ≤ exponent ∧ exponent < 16
    · by_cases hneg : exponent < 0
      · exact scan?_layout_small negative exponent row hrange.1 hneg hr
      · obtain ⟨n, rfl⟩ := Int.eq_ofNat_of_zero_le (Int.not_lt.1 hneg)
        rcases Nat.lt_or_ge (n + 1) digits.length with long | short
        · exact scan?_layout_among negative row hz hrange.2 long hr
        · exact scan?_layout_filled negative row hz hrange.2 short hr
    · exact scan?_layout_exponent negative exponent row hz hrange hr

/-- A double's text is a literal with a point or an exponent that reads back as the double. -/
theorem scan?_text (x : Finite64) (hr : Ends rest) :
    ∃ l, scan? (x.text ++ rest) = some (l, rest) ∧ l.isInteger = false ∧
      l.toBinary64 = .finite x := by
  obtain ⟨digits, first, same⟩ := x.shortest.significant_spec x.negative
  obtain ⟨l, read, real, value⟩ := scan?_layout x.negative x.shortest.significant.2 digits first hr
  refine ⟨l, ?_, real, ?_⟩
  · unfold text
    dsimp only
    rw [List.append_assoc]
    exact read
  · rw [value, same, shortest_toBinary64]

theorem text_injective : Function.Injective text := by
  intro x y h
  obtain ⟨l, hl, -, hx⟩ := x.scan?_text NumberLiteral.ends_nil
  obtain ⟨m, hm, -, hy⟩ := y.scan?_text NumberLiteral.ends_nil
  rw [h, hm] at hl
  obtain ⟨rfl, -⟩ := Prod.mk.inj (Option.some.inj hl)
  exact Binary64.finite.inj (hx.symm.trans hy)

end Finite64
end FieldSchema
