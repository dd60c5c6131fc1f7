import FieldSchema.Proofs.Schema.Members
import FieldSchema.Template.Hints
import Mathlib.Data.List.Basic

/-! The places of a schema: each field of the tree with the path by which hints name it. -/
namespace FieldSchema

structure Place where
  path : String
  field : Field

namespace Place

/-- What is said of the field, or nothing. -/
def hint (p : Place) : String := p.field.hint.getD ""

def line (p : Place) : String := "- " ++ p.path ++ ": " ++ p.hint

end Place

namespace Field

/-- The path of a field directly below one whose own path is given. -/
def childPath (path : String) (f g : Field) : String :=
  match f with
  | object _ _ => path ++ "." ++ g.name
  | array _ _ _ => path ++ "[]"
  | _ => path

/-- The fields of a tree whose top has the given path, each before the fields below it. -/
def placesFrom (path : String) (f : Field) : List Place :=
  match f with
  | object label members => ⟨path, f⟩ :: below (childPath path (object label members)) members
  | variant _ alternatives => ⟨path, f⟩ :: below (fun _ => path) alternatives
  | array _ element _ => ⟨path, f⟩ :: placesFrom (path ++ "[]") element
  | optional _ inner => ⟨path, f⟩ :: placesFrom path inner
  | _ => [⟨path, f⟩]
where
  below (path : Field → String) : List Field → List Place
    | [] => []
    | f :: rest => placesFrom (path f) f ++ below path rest

/-- The places of a schema, which is named by the name of its top. -/
def places (f : Field) : List Place := f.placesFrom f.name

variable {path : String} {f : Field}

theorem below_eq (path : Field → String) (fields : List Field) :
    placesFrom.below path fields = fields.flatMap fun f => f.placesFrom (path f) := by
  induction fields with
  | nil => rfl
  | cons f rest ih => rw [placesFrom.below, ih, List.flatMap_cons]

theorem placesFrom_eq (path : String) (f : Field) : f.placesFrom path =
    ⟨path, f⟩ :: f.children.flatMap fun g => g.placesFrom (childPath path f g) := by
  cases f <;> simp [placesFrom, children, below_eq, childPath]

theorem map_field_placesFrom (path : String) (f : Field) :
    (f.placesFrom path).map Place.field = f.preorder := by
  induction f using induct_children generalizing path with
  | step f ih =>
    rw [placesFrom_eq, preorder_eq, List.map_cons, List.map_flatMap]
    exact congrArg _ (List.flatMap_congr fun g hg => ih g hg _)

theorem mem_placesFrom_self (path : String) (f : Field) : ⟨path, f⟩ ∈ f.placesFrom path := by
  rw [placesFrom_eq]
  exact List.mem_cons_self

theorem placesFrom_subset (path : String) {f g : Field} (h : g ∈ f.children) :
    g.placesFrom (childPath path f g) ⊆ f.placesFrom path := by
  intro p hp
  rw [placesFrom_eq]
  exact List.mem_cons_of_mem _ (List.mem_flatMap.2 ⟨g, h, hp⟩)

theorem memberField_placesFrom_subset :
    f.memberField.placesFrom path ⊆ f.placesFrom path := by
  cases f with
  | optional label inner => exact List.subset_cons_self _ _
  | _ => exact List.Subset.refl _

theorem prefix_drop_flatMap {t : Field → List Place} {fields : List Field} {n : Nat} {p : Place}
    (h : ∀ g ∈ fields, ∀ n, (t g)[n]? = some p → p.field.placesFrom p.path <+: (t g).drop n)
    (hp : (fields.flatMap t)[n]? = some p) :
    p.field.placesFrom p.path <+: (fields.flatMap t).drop n := by
  induction fields generalizing n with
  | nil => exact absurd hp nofun
  | cons g rest ih =>
    obtain ⟨first, later⟩ := List.forall_mem_cons.1 h
    rw [List.flatMap_cons] at hp ⊢
    rw [List.drop_append]
    by_cases hn : n < (t g).length
    · rw [List.getElem?_append_left hn] at hp
      exact (first n hp).trans (List.prefix_append _ _)
    · rw [List.getElem?_append_right (by omega)] at hp
      rw [List.drop_eq_nil_of_le (by omega), List.nil_append]
      exact ih later hp

theorem placesFrom_prefix_drop {n : Nat} {p : Place} (h : (f.placesFrom path)[n]? = some p) :
    p.field.placesFrom p.path <+: (f.placesFrom path).drop n := by
  induction f using induct_children generalizing path n with
  | step f ih =>
    cases n with
    | zero =>
      rw [placesFrom_eq] at h
      obtain rfl := Option.some.inj h
      exact List.prefix_refl _
    | succ n =>
      rw [placesFrom_eq path f] at h ⊢
      exact prefix_drop_flatMap (fun g hg _ => ih g hg) h

/-- The place of an optional field comes right before that of the field inside, which has its
path. -/
theorem placesFrom_optional {n : Nat} {here : String} {label : Label} {inner : Field}
    (h : (f.placesFrom path)[n]? = some ⟨here, .optional label inner⟩) :
    (f.placesFrom path)[n + 1]? = some ⟨here, inner⟩ := by
  obtain ⟨rest, split⟩ := placesFrom_prefix_drop h
  have next : ((f.placesFrom path).drop n)[1]? = some ⟨here, inner⟩ := by
    rw [← split, placesFrom, placesFrom_eq here inner]
    rfl
  rwa [List.getElem?_drop] at next

theorem length_placesFrom (path : String) (f : Field) :
    (f.placesFrom path).length = f.preorder.length := by
  rw [← map_field_placesFrom path f, List.length_map]

end Field

namespace Hints

theorem memberLines_eq (path : String) (fields : List Field) :
    memberLines path fields = fields.flatMap fun f => lines (path ++ "." ++ f.name) f := by
  induction fields with
  | nil => rfl
  | cons f rest ih =>
    rw [memberLines, ih]
    rfl

theorem alternativeLines_eq (path : String) (fields : List Field) :
    alternativeLines path fields = fields.flatMap (lines path) := by
  induction fields with
  | nil => rfl
  | cons f rest ih => rw [alternativeLines, ih, List.flatMap_cons]

theorem lines_eq (path : String) (f : Field) : lines path f =
    line f.label path ++ f.children.flatMap fun g => lines (f.childPath path g) g := by
  cases f <;> simp [lines, memberLines_eq, alternativeLines_eq, Field.children, Field.childPath,
    Field.label]

theorem line_eq (p : Place) :
    line p.field.label p.path = ([p].filter (·.hint ≠ "")).map Place.line := by
  have hint : p.hint = p.field.label.hint.getD "" := rfl
  rw [line]
  cases h : p.field.label.hint with
  | none =>
    rw [h] at hint
    simp [hint]
  | some s =>
    rw [h] at hint
    by_cases empty : s = ""
    · simp [hint, empty]
    · simp [hint, empty, Place.line]
      rfl

theorem lines_places (path : String) (f : Field) :
    lines path f = ((f.placesFrom path).filter (·.hint ≠ "")).map Place.line := by
  induction f using Field.induct_children generalizing path with
  | step f ih =>
    have split : f.placesFrom path = [⟨path, f⟩] ++
        f.children.flatMap fun g => g.placesFrom (f.childPath path g) := Field.placesFrom_eq path f
    rw [lines_eq, line_eq ⟨path, f⟩, split, List.filter_append, List.map_append,
      List.filter_flatMap, List.map_flatMap]
    exact congrArg _ (List.flatMap_congr fun g hg => ih g hg _)

end Hints

theorem Field.hints_eq (f : Field) :
    f.hints = "\n".intercalate ((f.places.filter (·.hint ≠ "")).map Place.line) := by
  rw [hints, Hints.lines_places]
  rfl

/-- An optional list has one path, and all its items have another. -/
example : (Field.object ⟨"note", none, by decide, by decide⟩
    [.optional ⟨"tags", some "topics", by decide, by decide⟩
      (.array ⟨"list", none, by decide, by decide⟩
        (.string ⟨"tag", some "one word", by decide, by decide⟩ ⟨1, 9, by decide⟩)
        ⟨0, 3, by decide⟩)]).hints = "- note.tags: topics\n- note.tags[]: one word" := by
  decide +kernel

end FieldSchema
