import FieldSchema.Proofs.Number.Layout

/-! The characters that numbers are written in: digits, with a sign, a point and an exponent. -/
namespace FieldSchema

def Positional (s : List Char) : Prop := ∀ c ∈ s, c.isDigit ∨ c = '-' ∨ c = '.'

/-- The text of a number: with or without an exponent, whose sign is always written. -/
def NumberText (s : List Char) : Prop :=
  ∃ front tail, s = front ++ tail ∧ Positional front ∧
    (tail = [] ∨ ∃ sign power, (sign = '-' ∨ sign = '+') ∧ (∀ c ∈ power, c.isDigit) ∧
      tail = 'e' :: sign :: power)

/-- A number is written in digits, signs, a point and an exponent mark. -/
theorem NumberText.chars {s : List Char} (h : NumberText s) :
    ∀ c ∈ s, c.isDigit ∨ c = '-' ∨ c = '.' ∨ c = 'e' ∨ c = '+' := by
  obtain ⟨front, tail, rfl, hfront, htail⟩ := h
  intro c hc
  rcases List.mem_append.1 hc with hc | hc
  · rcases hfront c hc with h | h | h <;> simp [h]
  · rcases htail with rfl | ⟨sign, power, hsign, hpower, rfl⟩
    · simp at hc
    · rcases List.mem_cons.1 hc with h | hc
      · simp [h]
      · rcases List.mem_cons.1 hc with h | hc
        · rcases hsign with hs | hs <;> simp [h, hs]
        · exact .inl (hpower c hc)

theorem NumberText.notMem {s : List Char} {c : Char} (h : NumberText s)
    (hc : (c.isDigit || ['-', '.', 'e', '+'].contains c) = false) : c ∉ s := by
  intro hm
  have chars := h.chars c hm
  simp only [Bool.or_eq_false_iff, List.contains_eq_mem, decide_eq_false_iff_not, List.mem_cons,
    List.not_mem_nil, or_false] at hc
  rcases chars with digit | other
  · exact Bool.false_ne_true (hc.1.symm.trans digit)
  · exact hc.2 other

theorem Positional.of_digits {s : List Char} (h : ∀ c ∈ s, c.isDigit) : Positional s :=
  fun c hc => .inl (h c hc)

theorem Positional.append {s t : List Char} (hs : Positional s) (ht : Positional t) :
    Positional (s ++ t) := List.forall_mem_append.2 ⟨hs, ht⟩

theorem Positional.ite {p : Prop} [Decidable p] {s t : List Char} (hs : Positional s)
    (ht : Positional t) : Positional (if p then s else t) := by
  split <;> assumption

theorem numberText_integer (n : Int) : NumberText (integerText n) := by
  refine ⟨integerText n, [], by simp, ?_, .inl rfl⟩
  rcases lt_or_ge n 0 with h | h
  · rw [integerText_of_neg h]
    exact List.forall_mem_cons.2 ⟨.inr (.inl rfl), fun c hc => .inl (isDigit_of_mem_toDigits hc)⟩
  · rw [integerText_of_nonneg h]
    exact fun c hc => .inl (isDigit_of_mem_toDigits hc)

theorem numberText_layout {digits : List Char} (exponent : Int) (hd : ∀ c ∈ digits, c.isDigit)
    {sign : List Char} (hs : Positional sign) :
    NumberText (sign ++ Finite64.layout digits exponent) := by
  have point : Positional ['.'] := by simp [Positional]
  have zeros : ∀ n, Positional (List.replicate n '0') := fun n =>
    Positional.of_digits NumberLiteral.isDigit_of_mem_zeros
  have all := Positional.of_digits hd
  have some : ∀ s, (∀ c ∈ s, c ∈ digits) → Positional s := fun s h c hc => all c (h c hc)
  unfold Finite64.layout
  split
  next => exact ⟨_, [], (List.append_nil _).symm, hs.append (by simp [Positional]), .inl rfl⟩
  next =>
    split
    next =>
      split
      next =>
        have zero : Positional ['0', '.'] := by simp [Positional]
        refine ⟨_, [], (List.append_nil _).symm, hs.append ?_, .inl rfl⟩
        exact (zero.append (zeros _)).append all
      next =>
        refine ⟨_, [], (List.append_nil _).symm, hs.append ?_, .inl rfl⟩
        refine ((some _ fun c hc => List.mem_of_mem_take hc).append (zeros _)).append
          (point.append (.ite (zeros 1) (some _ fun c hc => List.mem_of_mem_drop hc)))
    next =>
      have front : Positional (digits.take 1 ++
          if digits.length = 1 then [] else '.' :: digits.drop 1) :=
        (some _ fun c hc => List.mem_of_mem_take hc).append
          (.ite (by simp [Positional]) (point.append (some _ fun c hc => List.mem_of_mem_drop hc)))
      dsimp only
      refine ⟨_, _, (List.append_assoc _ _ _).symm, hs.append front, .inr ⟨_, _, ?_, ?_, rfl⟩⟩
      · split <;> simp
      · exact ((NumberLiteral.digits_toDigits _).zeros_append _).2

theorem numberText_real (x : Finite64) : NumberText x.text := by
  obtain ⟨digits, -, -⟩ := x.shortest.significant_spec x.negative
  unfold Finite64.text
  dsimp only
  apply numberText_layout _ digits
  split <;> simp [Positional]

end FieldSchema
