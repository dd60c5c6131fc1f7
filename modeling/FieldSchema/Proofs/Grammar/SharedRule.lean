import FieldSchema.Proofs.Grammar.RuleName

/-! Shared rules. A shared name belongs to one kind and one pair of bounds, and so to one
production. -/
namespace FieldSchema.Grammar

def integerName (b : Bounds Int) : String := boundsName "integer" b.low b.high

def realName (b : Bounds Finite64) : String := boundsName "float" b.low b.high

def stringName (b : Bounds Nat) : String := s!"string-{b.low}-{b.high}"

theorem toList_integerName (b : Bounds Int) : (integerName b).toList =
    dashed "integer".toList (tokenChars (integerText b.low)) (tokenChars (integerText b.high)) :=
  toList_boundsName ..

theorem toList_realName (b : Bounds Finite64) : (realName b).toList =
    dashed "float".toList (tokenChars b.low.text) (tokenChars b.high.text) := by
  rw [realName, toList_boundsName]
  simp [Numeric.display, Binary64.display, Finite64.display]

theorem toList_stringName (b : Bounds Nat) : (stringName b).toList =
    dashed "string".toList (Nat.toDigits 10 b.low) (Nat.toDigits 10 b.high) :=
  toList_lengthsName ..

/-- Names of one kind with the two bounds behind it tell the bounds apart. -/
theorem injective_of_dashed {α : Type} [LE α] {name : Bounds α → String} {kind : List Char}
    {token : α → List Char}
    (spelled : ∀ b, (name b).toList = dashed kind (token b.low) (token b.high))
    (hk : '-' ∉ kind) (ht : ∀ x, '-' ∉ token x) (hi : Function.Injective token) :
    Function.Injective name := by
  intro b c h
  have texts := congrArg String.toList h
  rw [spelled, spelled] at texts
  obtain ⟨-, low, high⟩ := dashed_injective hk (ht _) hk (ht _) texts
  obtain ⟨low₁, high₁, _⟩ := b
  obtain ⟨low₂, high₂, _⟩ := c
  obtain rfl : low₁ = low₂ := hi low
  obtain rfl : high₁ = high₂ := hi high
  rfl

theorem integerName_injective : Function.Injective integerName := by
  refine injective_of_dashed toList_integerName (by decide) (fun _ => dash_notMem_tokenChars _) ?_
  intro m n h
  exact integerText_injective (tokenChars_injective (numberText_integer m) (numberText_integer n) h)

theorem realName_injective : Function.Injective realName := by
  refine injective_of_dashed toList_realName (by decide) (fun _ => dash_notMem_tokenChars _) ?_
  intro x y h
  exact Finite64.text_injective (tokenChars_injective (numberText_real x) (numberText_real y) h)

theorem stringName_injective : Function.Injective stringName :=
  injective_of_dashed toList_stringName (by decide) (fun _ => notMem_toDigits rfl _)
    toDigits_injective

def kindOf (name : String) : List Char := name.toList.takeWhile (· != '-')

theorem kindOf_dashed {name : String} {kind low high : List Char} (hk : '-' ∉ kind)
    (h : name.toList = dashed kind low high) : kindOf name = kind := by
  have stop : ∀ c ∈ kind, (c != '-') = true := by
    intro c hc
    have other : c ≠ '-' := fun he => hk (he ▸ hc)
    simp [other]
  rw [kindOf, h, dashed, List.takeWhile_append_of_pos stop]
  simp

@[simp] theorem kindOf_integerName (b : Bounds Int) : kindOf (integerName b) = "integer".toList :=
  kindOf_dashed (by decide) (toList_integerName b)

@[simp] theorem kindOf_realName (b : Bounds Finite64) : kindOf (realName b) = "float".toList :=
  kindOf_dashed (by decide) (toList_realName b)

@[simp] theorem kindOf_stringName (b : Bounds Nat) : kindOf (stringName b) = "string".toList :=
  kindOf_dashed (by decide) (toList_stringName b)

@[simp] theorem kindOf_boolean : kindOf "boolean" = "boolean".toList := by decide

/-- A rule that fields of one kind and with the same bounds share. -/
inductive SharedRule where
  | integer (b : Bounds Int)
  | real (b : Bounds Finite64)
  | string (b : Bounds Nat)
  | boolean

namespace SharedRule

def name : SharedRule → String
  | integer b => integerName b
  | real b => realName b
  | string b => stringName b
  | boolean => "boolean"

def production : SharedRule → Production
  | integer b => integerRange b.low b.high
  | real b => decimalRange b
  | string b => [.text "\"" :: stringBody b ++ [.text "\""]]
  | boolean => [[.text "true"], [.text "false"]]

/-- No two shared rules have one name. -/
theorem name_injective : Function.Injective name := by
  intro r s h
  have kinds := congrArg kindOf h
  cases r <;> cases s <;>
    simp only [name, kindOf_integerName, kindOf_realName, kindOf_stringName,
      kindOf_boolean] at kinds
  case integer.integer b c => rw [integerName_injective h]
  case real.real b c => rw [realName_injective h]
  case string.string b c => rw [stringName_injective h]
  case boolean.boolean => rfl
  all_goals exact absurd kinds (by decide)

theorem name_shape (s : SharedRule) : s.name = "boolean" ∨ IsDashed s.name.toList := by
  cases s with
  | integer b => exact .inr (isDashed_boundsName (by decide) (numberText_display_int _))
  | real b => exact .inr (isDashed_boundsName (by decide) (numberText_display_real _))
  | string b =>
    exact .inr ⟨_, _, _, by decide, notMem_toDigits rfl _, notMem_toDigits rfl _,
      toList_stringName b⟩
  | boolean => exact .inl rfl

theorem name_ne_root (s : SharedRule) : s.name ≠ "root" := by
  intro h
  rcases s.name_shape with hb | ⟨kind, low, high, -, -, -, hd⟩
  · rw [h] at hb
    exact absurd hb (by decide)
  · have dash : '-' ∈ "root".toList := by rw [← h, hd]; simp [dashed]
    exact absurd dash (by decide)

end SharedRule

theorem StructureName.ne_shared {name : String} (h : StructureName name) (s : SharedRule) :
    name ≠ s.name := by
  intro he
  rcases s.name_shape with hb | hd
  · exact h.notMem_reserved (by rw [he, hb]; decide)
  · rw [← he] at hd
    exact h.not_isDashed hd

end FieldSchema.Grammar

namespace FieldSchema

open Grammar (SharedRule sharedName?)

/-- The rule that a field shares with others. -/
def Field.sharedRule? : Field → Option SharedRule
  | .integer _ b => some (.integer b)
  | .real _ b => some (.real b)
  | .string _ b => some (.string b)
  | .boolean _ => some .boolean
  | _ => none

theorem Field.sharedName?_eq (f : Field) : sharedName? f = f.sharedRule?.map SharedRule.name := by
  cases f <;> rfl

end FieldSchema
