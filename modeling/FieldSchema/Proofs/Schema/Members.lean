import FieldSchema.Schema.Field

/-! Members of objects, and the fields of a tree. A member whose field is optional may be left out;
if it is there, its value belongs to the field inside. -/
namespace FieldSchema.Field

def isOptional : Field → Bool
  | .optional _ _ => true
  | _ => false

/-- The field that the value of a member matches if it is there. -/
def memberField : Field → Field
  | .optional _ inner => inner
  | f => f

/-- Every field reached from a field that satisfies `among` satisfies it. -/
def Closed (among : Field → Prop) : Prop := ∀ f, among f → ∀ g ∈ f.children, among g

theorem closed_wellFormed : Closed WellFormed := by
  intro f hf g hg
  cases hf with
  | object label members all => exact all g hg
  | variant label alternatives some all => exact all g hg
  | array label element lengths inner =>
    rw [List.mem_singleton.1 hg]
    exact inner
  | optional label child inner =>
    rw [List.mem_singleton.1 hg]
    exact inner
  | _ => exact absurd hg List.not_mem_nil

theorem Closed.memberField {among : Field → Prop} (h : Closed among) {f : Field} (hf : among f) :
    among f.memberField := by
  cases f with
  | optional label inner => exact h _ hf inner (by simp [children])
  | _ => exact hf

section Preorder

mutual

theorem induct_children {p : Field → Prop} (step : ∀ f, (∀ g ∈ f.children, p g) → p f) (f : Field) :
    p f := by
  refine step f fun g hg => ?_
  cases f with
  | object label members => exact induct_all step members g hg
  | variant label alternatives => exact induct_all step alternatives g hg
  | array label element lengths =>
    rw [List.mem_singleton.1 hg]
    exact induct_children step element
  | optional label inner =>
    rw [List.mem_singleton.1 hg]
    exact induct_children step inner
  | _ => exact absurd hg List.not_mem_nil

theorem induct_all {p : Field → Prop} (step : ∀ f, (∀ g ∈ f.children, p g) → p f)
    (fields : List Field) : ∀ g ∈ fields, p g := by
  cases fields with
  | nil => exact fun _ hg => absurd hg List.not_mem_nil
  | cons f rest => exact List.forall_mem_cons.2 ⟨induct_children step f, induct_all step rest⟩

end

/-- The same where a field inside an optional one counts as directly below what that is below. -/
theorem induct_members {p : Field → Prop}
    (step : ∀ f, (∀ g ∈ f.children, p g ∧ p g.memberField) → p f) (f : Field) : p f := by
  have both : p f ∧ p f.memberField := by
    induction f using induct_children with
    | step f ih =>
      have whole := step f ih
      cases f with
      | optional label inner => exact ⟨whole, (ih inner (by simp [children])).1⟩
      | _ => exact ⟨whole, whole⟩
  exact both.1

variable {f g h : Field}

theorem preorderAll_eq (fields : List Field) :
    preorder.preorderAll fields = fields.flatMap preorder := by
  induction fields with
  | nil => rfl
  | cons f rest ih => rw [preorder.preorderAll, ih, List.flatMap_cons]

theorem preorder_eq (f : Field) : f.preorder = f :: f.children.flatMap preorder := by
  cases f <;> simp [preorder, children, preorderAll_eq]

theorem mem_preorder_self (f : Field) : f ∈ f.preorder := by
  rw [preorder_eq]
  exact List.mem_cons_self

theorem mem_preorder_of_child (hg : g ∈ f.children) (hh : h ∈ g.preorder) : h ∈ f.preorder := by
  rw [preorder_eq]
  exact List.mem_cons_of_mem _ (List.mem_flatMap.2 ⟨g, hg, hh⟩)

theorem closed_preorder (p : Field → Prop) : Closed fun f => ∀ h ∈ f.preorder, p h :=
  fun _ hf _ hg h hh => hf h (mem_preorder_of_child hg hh)

/-- What a field and all fields below it have to satisfy, one by one. -/
theorem forall_preorder_iff {p own : Field → Prop}
    (h : ∀ f, p f ↔ own f ∧ ∀ g ∈ f.children, p g) (f : Field) :
    p f ↔ ∀ g ∈ f.preorder, own g := by
  induction f using induct_children with
  | step f ih =>
    rw [h, preorder_eq, List.forall_mem_cons, List.forall_mem_flatMap]
    exact and_congr_right fun _ => forall₂_congr ih

end Preorder

section Scalars

/-- The values that a field is given as such: integer bounds, a constant, options. -/
def scalars : Field → List Scalar
  | integer _ b => [.int b.low, .int b.high]
  | constant _ value => [value]
  | choice _ options => options.scalars
  | _ => []

def integers (f : Field) : List Int := f.scalars.filterMap fun
  | .int n => some n
  | _ => none

def texts (f : Field) : List String := f.scalars.filterMap fun
  | .text s => some s
  | _ => none

/-- Where a reader takes the values of one form, those are what it collects. -/
theorem mem_filterMap_scalars {α : Type} {take? : Scalar → Option α} {form : α → Scalar}
    (h : ∀ v a, take? v = some a ↔ v = form a) {f : Field} {a : α} :
    a ∈ f.scalars.filterMap take? ↔ form a ∈ f.scalars := by
  simp only [List.mem_filterMap, h, exists_eq_right]

theorem mem_integers {f : Field} {n : Int} : n ∈ f.integers ↔ .int n ∈ f.scalars := by
  refine mem_filterMap_scalars (fun v m => ?_)
  cases v <;> simp

theorem mem_texts {f : Field} {s : String} : s ∈ f.texts ↔ .text s ∈ f.scalars := by
  refine mem_filterMap_scalars (fun v t => ?_)
  cases v <;> simp

end Scalars

section WellFormed

def OwnDataValid : Field → Prop
  | choice _ options => options.Valid
  | object _ members => (members.map name).Nodup
  | variant _ alternatives => alternatives ≠ [] ∧ ∀ f ∈ alternatives, f.kind = .object
  | _ => True

instance : DecidablePred OwnDataValid
  | choice _ options => inferInstanceAs (Decidable options.Valid)
  | object _ members => inferInstanceAs (Decidable (members.map name).Nodup)
  | variant _ alternatives =>
    inferInstanceAs (Decidable (alternatives ≠ [] ∧ ∀ f ∈ alternatives, f.kind = .object))
  | integer .. | real .. | string .. | constant .. | boolean .. | array .. | optional ..
  | template .. => isTrue trivial

theorem wellFormed_iff_children {f : Field} :
    f.WellFormed ↔ f.OwnDataValid ∧ ∀ g ∈ f.children, g.WellFormed := by
  constructor
  · intro h
    refine ⟨?_, closed_wellFormed f h⟩
    cases h with
    | choice _ _ valid => exact valid
    | object _ _ _ distinct => exact distinct
    | variant _ _ filled _ objects => exact ⟨filled, objects⟩
    | _ => trivial
  · intro ⟨own, below⟩
    cases f with
    | integer label b => exact .integer label b
    | real label b => exact .real label b
    | string label b => exact .string label b
    | constant label value => exact .constant label value
    | boolean label => exact .boolean label
    | choice label options => exact .choice label options own
    | object label members => exact .object label members below own
    | variant label alternatives => exact .variant label alternatives own.1 below own.2
    | array label element b => exact .array label element b (below element (by simp [children]))
    | optional label inner => exact .optional label inner (below inner (by simp [children]))
    | template label p b => exact .template label p b

/-- A tree is well-formed if the data of each of its fields are valid. -/
theorem wellFormed_iff {f : Field} : f.WellFormed ↔ ∀ g ∈ f.preorder, g.OwnDataValid :=
  forall_preorder_iff (fun _ => wellFormed_iff_children) f

instance : DecidablePred WellFormed := fun _ => decidable_of_iff _ wellFormed_iff.symm

end WellFormed

end FieldSchema.Field
