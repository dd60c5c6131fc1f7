import FieldSchema.Grammar.WrittenRange
import FieldSchema.Proofs.Grammar.Unambiguous

/-! Integer ranges worked out digit by digit within a limit on nested calls. How many calls a range
nests depends on its bounds alone. If they are allowed, the range is the one that is worked out by
division; if not, there is none. -/
namespace FieldSchema.Grammar

/-- How many calls are nested for the numbers of one width. -/
def nesting (low high : Nat) : (width : Nat) → Nat
  | 0 => 0
  | 1 => 1
  | width + 1 =>
    let unit := 10 ^ width
    let restLow := low % unit
    let restHigh := high % unit
    if low / unit = high / unit then nesting restLow restHigh width + 1
    else max (if restLow = 0 then 0 else nesting restLow (unit - 1) width)
      (if restHigh = unit - 1 then 0 else nesting 0 restHigh width) + 1

def bandNesting (low high width : Nat) : Nat :=
  let least := max low (if width = 1 then 0 else 10 ^ (width - 1))
  let most := min high (10 ^ width - 1)
  if least ≤ most then nesting least most width else 0

def largest (ns : List Nat) : Nat := ns.foldr max 0

def naturalNesting (low high : Nat) : Nat :=
  largest ((List.range (digitCount high + 1 - digitCount low)).map fun n =>
    bandNesting low high (digitCount low + n))

def rangeNesting (low high : Int) : Nat :=
  max (if low < 0 then naturalNesting (-(min high (-1))).toNat (-low).toNat else 0)
    (if 0 ≤ high then naturalNesting (max low 0).toNat high.toNat else 0)

theorem largest_le_iff {ns : List Nat} {m : Nat} : largest ns ≤ m ↔ ∀ n ∈ ns, n ≤ m := by
  induction ns with
  | nil => simp [largest]
  | cons n ns ih => rw [List.forall_mem_cons, ← ih, ← Nat.max_le]; rfl

section Bounds

theorem nesting_le (low high width : Nat) : nesting low high width ≤ width := by
  induction width generalizing low high with
  | zero => exact le_rfl
  | succ width ih =>
    cases width with
    | zero => exact le_rfl
    | succ width =>
      rw [nesting]
      · split
        · exact Nat.succ_le_succ (ih _ _)
        · refine Nat.succ_le_succ (Nat.max_le.2 ⟨?_, ?_⟩) <;> split
          · exact Nat.zero_le _
          · exact ih _ _
          · exact Nat.zero_le _
          · exact ih _ _
      · omega

theorem bandNesting_le (low high width : Nat) : bandNesting low high width ≤ width := by
  unfold bandNesting
  dsimp only
  generalize (if width = 1 then 0 else 10 ^ (width - 1)) = least
  split
  · exact nesting_le _ _ _
  · exact Nat.zero_le _

theorem naturalNesting_le (low high : Nat) : naturalNesting low high ≤ digitCount high := by
  refine largest_le_iff.2 (List.forall_mem_map.2 fun n hn => ?_)
  have short := List.mem_range.1 hn
  exact (bandNesting_le _ _ _).trans (by omega)

theorem digitCount_pos (n : Nat) : 0 < digitCount n := Nat.length_toDigits_pos

theorem rangeNesting_le (low high : Int) :
    rangeNesting low high ≤ max (digitCount low.natAbs) (digitCount high.natAbs) := by
  refine max_le_max ?_ ?_
  · split
    next h =>
      rw [show low.natAbs = (-low).toNat by omega]
      exact naturalNesting_le _ _
    next => exact Nat.zero_le _
  · split
    next h =>
      rw [show high.natAbs = high.toNat by omega]
      exact naturalNesting_le _ _
    next => exact Nat.zero_le _

end Bounds

section Granted

variable {α β : Type} {calls m n : Nat}

/-- A result that nests `n` calls, if the limit allows as many. -/
def granted (calls n : Nat) (a : α) : Except RangeFault α :=
  if n ≤ calls then .ok a else .error .tooDeep

theorem granted_eq_ok_iff {a b : α} : granted calls n a = .ok b ↔ n ≤ calls ∧ a = b := by
  unfold granted
  split
  next enough => simp [enough]
  next less => simp [less]

theorem granted_eq_error_iff {a : α} {fault : RangeFault} :
    granted calls n a = .error fault ↔ calls < n ∧ fault = .tooDeep := by
  unfold granted
  split
  next enough => simp [Nat.not_lt.2 enough]
  next less => simp [Nat.lt_of_not_le less, eq_comm]

theorem granted_zero (a : α) : granted calls 0 a = .ok a := if_pos (Nat.zero_le calls)

theorem granted_succ (a : α) : granted (calls + 1) (n + 1) a = granted calls n a :=
  if_congr Nat.succ_le_succ_iff rfl rfl

theorem map_granted (f : α → β) (a : α) : (granted calls n a).map f = granted calls n (f a) := by
  unfold granted
  split <;> rfl

/-- Two results that are put together nest as many calls as the deeper one. -/
theorem granted_both {γ : Type} (f : α → β → γ) (a : α) (b : β) :
    (granted calls m a >>= fun x => granted calls n b >>= fun y => .ok (f x y)) =
      granted calls (max m n) (f a b) := by
  by_cases first : m ≤ calls
  · by_cases second : n ≤ calls
    · rw [granted, granted, granted, if_pos first, if_pos second,
        if_pos (Nat.max_le.2 ⟨first, second⟩)]
      rfl
    · rw [granted, granted, granted, if_pos first, if_neg second,
        if_neg fun both => second (Nat.max_le.1 both).2]
      rfl
  · have either : ¬ max m n ≤ calls := fun both => first (Nat.max_le.1 both).1
    rw [granted, granted, granted, if_neg first, if_neg either]
    rfl

theorem granted_when {c : Prop} [Decidable c] {p : List α} {x : Except RangeFault (List α)}
    (h : c → x = granted calls n p) :
    (if c then x else .ok []) = granted calls (if c then n else 0) (if c then p else []) := by
  by_cases hc : c
  · simp only [if_pos hc]
    exact h hc
  · simp only [if_neg hc]
    exact (granted_zero []).symm

theorem granted_unless {c : Prop} [Decidable c] {p : List α} :
    (if c then .ok [] else granted calls n p) =
      granted calls (if c then 0 else n) (if c then [] else p) := by
  simp only [← ite_not (p := c)]
  exact granted_when fun _ => rfl

theorem mapM_granted {f : α → Except RangeFault β} {nested : α → Nat} {g : α → β} (xs : List α)
    (h : ∀ x ∈ xs, f x = granted calls (nested x) (g x)) :
    xs.mapM f = granted calls (largest (xs.map nested)) (xs.map g) := by
  induction xs with
  | nil => exact (granted_zero []).symm
  | cons x xs ih =>
    obtain ⟨first, rest⟩ := List.forall_mem_cons.1 h
    rw [List.mapM_cons, first, ih rest]
    exact granted_both (· :: ·) (g x) (xs.map g)

end Granted

section Width

theorem fixedDigits_split {width n : Nat} (h : n < 10 ^ (width + 1)) :
    fixedDigits (width + 1) n = Nat.digitChar (n / 10 ^ width) :: fixedDigits width (n % 10 ^ width)
    := by
  have first : n / 10 ^ width < 10 := by
    rw [Nat.div_lt_iff_lt_mul (Nat.pow_pos (by omega)), mul_comm, ← pow_succ]
    exact h
  have whole := fixedDigits_cons (m := n % 10 ^ width) first (Nat.mod_lt _ (Nat.pow_pos (by omega)))
  rwa [mul_comm, Nat.div_add_mod] at whole

theorem fixedDigits_zero (width : Nat) : fixedDigits width 0 = List.replicate width '0' := by
  induction width with
  | zero => rfl
  | succ width ih =>
    rw [fixedDigits_split (Nat.pow_pos (by omega)), Nat.zero_div, Nat.zero_mod, ih]
    rfl

theorem fixedDigits_most (width : Nat) :
    fixedDigits width (10 ^ width - 1) = List.replicate width '9' := by
  induction width with
  | zero => rfl
  | succ width ih =>
    have unit : 0 < 10 ^ width := Nat.pow_pos (by omega)
    have split : 10 ^ (width + 1) - 1 = 9 * 10 ^ width + (10 ^ width - 1) := by
      rw [pow_succ]
      omega
    rw [split, fixedDigits_cons (by omega) (by omega), ih]
    rfl

theorem digitOf_digitChar {d : Nat} (h : d < 10) : digitOf [Nat.digitChar d] = .ok d := by
  have digit : (Nat.digitChar d).isDigit := by simpa [Nat.isDigit_digitChar] using h
  rw [digitOf, if_pos digit, Nat.toNat_digitChar_of_lt_ten h]
  exact congrArg _ (Nat.add_sub_cancel_left ..)

/-- The sequences for numbers with the first digits of two bounds or one between, from those for the
digits after the first of either bound. -/
def joined (first last : Nat) (all few : Prop) [Decidable all] [Decidable few] (width : Nat)
    (below above : List Sequence) : List Sequence :=
  let fullFirst := if all then first else first + 1
  let fullLast := if few then last else last - 1
  below.map (digit first first :: ·) ++
    (if fullFirst ≤ fullLast then [digit fullFirst fullLast :: List.replicate width anyDigit]
      else []) ++
    above.map (digit last last :: ·)

/-- What one call does with the first digits and the results of the calls nested in it. -/
theorem sameWidth_cons {calls first last : Nat} {low high : List Char} (hf : first < 10)
    (hl : last < 10) (more : 0 < low.length) :
    sameWidth (calls + 1) (Nat.digitChar first :: low) (Nat.digitChar last :: high) =
      if first = last then (sameWidth calls low high).map fun s => s.map (digit first first :: ·)
      else
        (if low = List.replicate low.length '0' then .ok []
          else sameWidth calls low (List.replicate low.length '9')) >>= fun below =>
        (if high = List.replicate low.length '9' then .ok []
          else sameWidth calls (List.replicate low.length '0') high) >>= fun above =>
        .ok (joined first last (low = List.replicate low.length '0')
          (high = List.replicate low.length '9') low.length below above) := by
  obtain ⟨d, rest, rfl⟩ := List.exists_cons_of_length_pos more
  rw [sameWidth]
  simp only [List.drop_one, List.tail_cons, List.take_succ_cons, List.take_zero,
    digitOf_digitChar hf, digitOf_digitChar hl]
  change (if first = last then _ else _) = _
  split
  · cases sameWidth calls (d :: rest) high <;> rfl
  · unfold joined
    by_cases all : d :: rest = List.replicate (d :: rest).length '0'
    · by_cases few : high = List.replicate (d :: rest).length '9'
      · simp only [if_pos all, if_pos few]
        rfl
      · simp only [if_pos all, if_neg few]
        rfl
    · by_cases few : high = List.replicate (d :: rest).length '9'
      · simp only [if_neg all, if_pos few]
        rfl
      · simp only [if_neg all, if_neg few]
        rfl

theorem fixedDigits_eq_iff {width m n : Nat} (hm : m < 10 ^ width) (hn : n < 10 ^ width) :
    fixedDigits width m = fixedDigits width n ↔ m = n :=
  ⟨NumberLiteral.fixedDigits_inj hm hn, congrArg _⟩

theorem nesting_succ (low high : Nat) {width : Nat} (hw : width ≠ 0) :
    nesting low high (width + 1) =
      (if low / 10 ^ width = high / 10 ^ width then
        nesting (low % 10 ^ width) (high % 10 ^ width) width
      else max (if low % 10 ^ width = 0 then 0 else
          nesting (low % 10 ^ width) (10 ^ width - 1) width)
        (if high % 10 ^ width = 10 ^ width - 1 then 0 else nesting 0 (high % 10 ^ width) width)) + 1
    := by
  rw [nesting]
  · split <;> rfl
  · exact hw

theorem fixedWidth_succ (low high : Nat) {width : Nat} (hw : width ≠ 0) :
    fixedWidth low high (width + 1) =
      if low / 10 ^ width = high / 10 ^ width then
        (fixedWidth (low % 10 ^ width) (high % 10 ^ width) width).map
          (digit (low / 10 ^ width) (low / 10 ^ width) :: ·)
      else joined (low / 10 ^ width) (high / 10 ^ width) (low % 10 ^ width = 0)
        (high % 10 ^ width = 10 ^ width - 1) width
        (if low % 10 ^ width = 0 then [] else
          fixedWidth (low % 10 ^ width) (10 ^ width - 1) width)
        (if high % 10 ^ width = 10 ^ width - 1 then [] else
          fixedWidth 0 (high % 10 ^ width) width) := by
  rw [fixedWidth]
  · refine if_congr Iff.rfl rfl ?_
    unfold joined
    dsimp only
    congr 1
    · congr 1
      split <;> rfl
    · split <;> rfl
  · exact hw

/-- One width of a range, if the limit allows the calls that it nests. -/
theorem sameWidth_fixedDigits {calls low high width : Nat} (hw : width ≠ 0)
    (hl : low < 10 ^ width) (hh : high < 10 ^ width) :
    sameWidth calls (fixedDigits width low) (fixedDigits width high) =
      granted calls (nesting low high width) (fixedWidth low high width) := by
  induction width generalizing calls low high with
  | zero => exact absurd rfl hw
  | succ width ih =>
    cases calls with
    | zero =>
      have deep : ¬ nesting low high (width + 1) ≤ 0 := by
        cases width with
        | zero => exact Nat.not_succ_le_zero 0
        | succ width =>
          rw [nesting_succ low high (Nat.succ_ne_zero width)]
          exact Nat.not_succ_le_zero _
      exact (if_neg deep).symm
    | succ calls =>
      cases width with
      | zero =>
        rw [zero_add, pow_one] at hl hh
        rw [fixedDigits_one hl, fixedDigits_one hh, sameWidth, digitOf_digitChar hl,
          digitOf_digitChar hh, nesting, fixedWidth, granted_succ, granted_zero]
        rfl
      | succ width =>
        have unit : 0 < 10 ^ (width + 1) := Nat.pow_pos (by omega)
        have digit : ∀ {n}, n < 10 ^ (width + 1 + 1) → n / 10 ^ (width + 1) < 10 := by
          intro n hn
          rw [Nat.div_lt_iff_lt_mul unit, mul_comm, ← pow_succ]
          exact hn
        have rest : ∀ n, n % 10 ^ (width + 1) < 10 ^ (width + 1) := fun n => Nat.mod_lt n unit
        have most : 10 ^ (width + 1) - 1 < 10 ^ (width + 1) := Nat.sub_lt unit Nat.one_pos
        have nested := fun {a b : Nat} => @ih calls a b (Nat.succ_ne_zero width)
        -- The calls for what follows the first digits are those of the induction hypothesis.
        rw [fixedDigits_split hl, fixedDigits_split hh, sameWidth_cons (digit hl) (digit hh) (by
            rw [length_fixedDigits]
            exact Nat.succ_pos width), length_fixedDigits, ← fixedDigits_zero, ← fixedDigits_most,
          nested (rest low) (rest high), nested (rest low) most, nested unit (rest high)]
        simp only [fixedDigits_eq_iff (rest low) unit, fixedDigits_eq_iff (rest high) most]
        rw [nesting_succ low high (Nat.succ_ne_zero width),
          fixedWidth_succ low high (Nat.succ_ne_zero width), granted_unless, granted_unless,
          granted_succ]
        generalize low / 10 ^ (width + 1) = first
        generalize high / 10 ^ (width + 1) = last
        generalize low % 10 ^ (width + 1) = restLow
        generalize high % 10 ^ (width + 1) = restHigh
        by_cases same : first = last
        · simp only [if_pos same]
          exact map_granted _ _
        · simp only [if_neg same]
          exact granted_both (joined first last _ _ _) _ _

end Width

section Range

variable {calls : Nat} {low high : Nat}

theorem lt_int (m n : Int) : Numeric.lt m n = decide (m < n) := by
  rw [Numeric.lt_eq_decide rfl rfl]
  exact decide_eq_decide.2 (Int.mul_lt_mul_right (Int.natCast_pos.2 Finite64.unitsPerOne_pos))

namespace WrittenNumber

theorem max_ofInt (m n : Int) : (ofInt m).max (ofInt n) = ofInt (Max.max m n) := by
  have less : (ofInt m).value.lt (ofInt n).value = decide (m < n) := lt_int m n
  rw [max, less]
  by_cases h : m < n
  · rw [if_pos (decide_eq_true h), max_eq_right h.le]
  · rw [if_neg (by simpa using h), max_eq_left (not_lt.1 h)]

theorem min_ofInt (m n : Int) : (ofInt m).min (ofInt n) = ofInt (Min.min m n) := by
  have less : (ofInt n).value.lt (ofInt m).value = decide (n < m) := lt_int n m
  rw [min, less]
  by_cases h : n < m
  · rw [if_pos (decide_eq_true h), min_eq_right h.le]
  · rw [if_neg (by simpa using h), min_eq_left (not_lt.1 h)]

theorem le_ofInt (m n : Int) : ((ofInt m).value.lt (ofInt n).value ||
    (ofInt m).value.same (ofInt n).value) = decide (m ≤ n) := by
  have compared : (Numeric.lt m n || Numeric.same m n) = decide (m ≤ n) := by
    rw [lt_int, Numeric.same_int, ← Bool.decide_or]
    exact decide_eq_decide.2 (by omega)
  exact compared

theorem text_ofInt (n : Nat) : (ofInt n).text = Nat.toDigits 10 n := by
  rw [← Int.toNat_natCast n]
  exact integerText_of_nonneg (Int.natCast_nonneg n)

theorem width_ofInt {n : Nat} (h : Legible n) : (ofInt n).width = .ok (digitCount n) := by
  rw [width, text_ofInt]
  exact if_neg (Nat.not_lt.2 h)

end WrittenNumber

open WrittenNumber (ofInt)

theorem writtenBand_ofInt (calls low high width : Nat) :
    writtenBand calls (ofInt low) (ofInt high) (width + 1) =
      granted calls (bandNesting low high (width + 1)) (band low high (width + 1)) := by
  have unit : 0 < 10 ^ (width + 1) := Nat.pow_pos (by omega)
  have floor : (if width + 1 = 1 then 0 else (10 : Int) ^ (width + 1 - 1)) =
      ((if width + 1 = 1 then 0 else 10 ^ (width + 1 - 1) : Nat) : Int) := by
    split <;> simp
  have ceiling : (10 : Int) ^ (width + 1) - 1 = ((10 ^ (width + 1) - 1 : Nat) : Int) := by
    rw [Nat.cast_sub unit]
    simp
  unfold writtenBand bandNesting band
  dsimp only
  rw [floor, ceiling, WrittenNumber.max_ofInt, WrittenNumber.min_ofInt, ← Nat.cast_max,
    ← Nat.cast_min, WrittenNumber.le_ofInt, WrittenNumber.text_ofInt, WrittenNumber.text_ofInt]
  -- Cut down to the width, a bound has as many digits as the width says.
  have filled : ∀ n, (if width + 1 = 1 then 0 else 10 ^ (width + 1 - 1)) ≤ n →
      n < 10 ^ (width + 1) → Nat.toDigits 10 n = fixedDigits (width + 1) n := by
    intro n h₁ h₂
    refine toDigits_eq_fixedDigits h₂ ?_
    rw [Nat.add_sub_cancel] at h₁
    split at h₁ <;> omega
  generalize (if width + 1 = 1 then 0 else 10 ^ (width + 1 - 1)) = least at *
  by_cases h : max low least ≤ min high (10 ^ (width + 1) - 1)
  · rw [if_pos (decide_eq_true (Int.ofNat_le.2 h)), if_pos h, if_pos h,
      filled _ (by omega) (by omega), filled _ (by omega) (by omega)]
    exact sameWidth_fixedDigits (by omega) (by omega) (by omega)
  · rw [if_neg fun hd => h (Int.ofNat_le.1 (of_decide_eq_true hd)), if_neg h, if_neg h,
      granted_zero]

theorem writtenNaturals_ofInt (hl : Legible low) (hh : Legible high) :
    writtenNaturals calls (ofInt low) (ofInt high) =
      granted calls (naturalNesting low high) (naturalRange low high) := by
  have bands : ∀ width ∈ (List.range (digitCount high + 1 - digitCount low)).map
      (digitCount low + ·), writtenBand calls (ofInt low) (ofInt high) width =
        granted calls (bandNesting low high width) (band low high width) := by
    refine List.forall_mem_map.2 fun k _ => ?_
    obtain ⟨width, hw⟩ := Nat.exists_eq_succ_of_ne_zero
      (Nat.ne_of_gt (Nat.add_pos_left (digitCount_pos low) k))
    rw [hw]
    exact writtenBand_ofInt calls low high width
  have steps : writtenNaturals calls (ofInt low) (ofInt high) =
      (((List.range (digitCount high + 1 - digitCount low)).map (digitCount low + ·)).mapM
        (writtenBand calls (ofInt low) (ofInt high))).map List.flatten := by
    unfold writtenNaturals
    rw [WrittenNumber.width_ofInt hl, WrittenNumber.width_ofInt hh]
    rfl
  rw [steps, mapM_granted _ bands, List.map_map, List.map_map, map_granted, ← List.flatMap_def]
  rfl

theorem negate_ofInt (n : Int) : (ofInt n).negate = ofInt (-n) := rfl

variable {least most : Int}

theorem writtenNaturals_of_nonneg (calls : Nat) (hl : 0 ≤ least) (hm : 0 ≤ most)
    (short : Legible least) (short' : Legible most) :
    writtenNaturals calls (ofInt least) (ofInt most) =
      granted calls (naturalNesting least.toNat most.toNat)
        (naturalRange least.toNat most.toNat) := by
  obtain ⟨low, rfl⟩ := Int.eq_ofNat_of_zero_le hl
  obtain ⟨high, rfl⟩ := Int.eq_ofNat_of_zero_le hm
  exact writtenNaturals_ofInt short short'

theorem legible_neg {n : Int} : Legible (-n) ↔ Legible n := by
  unfold Legible
  rw [Int.natAbs_neg]

/-- An integer range between legible bounds is the one worked out by division, if the limit allows
the calls that it nests. -/
theorem writtenRange_ofInt (calls : Nat) (hl : Legible least) (hm : Legible most) :
    writtenRange calls (ofInt least) (ofInt most) =
      granted calls (rangeNesting least most) (integerRange least most) := by
  have zero : Legible 0 := by decide
  have one : Legible (-1) := by decide
  have short : Legible (min most (-1)) := by rcases min_choice most (-1) with h | h <;> rwa [h]
  have short' : Legible (max least 0) := by rcases max_choice least 0 with h | h <;> rwa [h]
  have below : (ofInt least).value.lt (ofInt 0).value = decide (least < 0) := lt_int least 0
  have steps : writtenRange calls (ofInt least) (ofInt most) =
      (if least < 0 then writtenNaturals calls (ofInt (-(min most (-1)))) (ofInt (-least))
        else .ok []) >>= fun negatives =>
      (if 0 ≤ most then writtenNaturals calls (ofInt (max least 0)) (ofInt most)
        else .ok []) >>= fun naturals =>
      .ok (negatives.map (minus :: ·) ++ naturals) := by
    unfold writtenRange
    dsimp only
    rw [below, WrittenNumber.le_ofInt, WrittenNumber.min_ofInt, WrittenNumber.max_ofInt,
      negate_ofInt, negate_ofInt]
    simp only [decide_eq_true_eq]
    by_cases h₁ : least < 0
    · by_cases h₂ : 0 ≤ most
      · simp only [if_pos h₁, if_pos h₂]
        rfl
      · simp only [if_pos h₁, if_neg h₂]
        rfl
    · by_cases h₂ : 0 ≤ most
      · simp only [if_neg h₁, if_pos h₂]
        rfl
      · simp only [if_neg h₁, if_neg h₂]
        rfl
  have negatives := granted_when fun h : least < 0 => writtenNaturals_of_nonneg calls
    (show 0 ≤ -(min most (-1)) by omega) (show 0 ≤ -least by omega) (legible_neg.2 short)
    (legible_neg.2 hl)
  have naturals := granted_when fun h : 0 ≤ most => writtenNaturals_of_nonneg calls
    (show 0 ≤ max least 0 by omega) h short' hm
  rw [steps, negatives, naturals, granted_both fun (p q : List Sequence) => p.map (minus :: ·) ++ q]
  unfold integerRange
  rw [apply_ite (List.map (minus :: ·))]
  rfl

end Range

end FieldSchema.Grammar
