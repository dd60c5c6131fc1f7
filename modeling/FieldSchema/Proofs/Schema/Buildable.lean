import FieldSchema.Proofs.Schema.Constructed

/-! Building a well-formed field again. Its own data, given to the constructor of its kind, passes
every check, and a pattern is split where it was put together. -/
namespace FieldSchema

section Split

variable {word before after : List Char}

theorem Search.occurrences_pos (hw : word ≠ []) :
    0 < Search.occurrences word (before ++ (word ++ after)) := by
  induction before with
  | nil =>
    obtain ⟨w, more, rfl⟩ := List.exists_cons_of_ne_nil hw
    have here := Search.after?_append (w :: more) after
    rw [List.cons_append] at here
    simp only [List.nil_append, List.cons_append, Search.occurrences, here]
    exact Nat.add_pos_left Nat.one_pos _
  | cons c before ih => exact Nat.add_pos_right _ ih

theorem Search.splitAt?_append (hw : word ≠ [])
    (once : Search.occurrences word (before ++ (word ++ after)) = 1) :
    Search.splitAt? word (before ++ (word ++ after)) = some (before, after) := by
  induction before with
  | nil =>
    obtain ⟨w, more, rfl⟩ := List.exists_cons_of_ne_nil hw
    have here := Search.after?_append (w :: more) after
    rw [List.cons_append] at here
    simp [Search.splitAt?, here]
  | cons c before ih =>
    have later : 0 < Search.occurrences word (before ++ (word ++ after)) :=
      Search.occurrences_pos hw
    rw [List.cons_append, Search.occurrences] at once
    rw [List.cons_append, Search.splitAt?]
    cases here : Search.after? word (c :: (before ++ (word ++ after))) with
    | some rest =>
      simp only [here, Option.isSome_some, if_true] at once
      omega
    | none =>
      simp only [here, Option.isSome_none] at once
      simp [ih (by simpa using once)]

end Split

theorem Pattern.ofText_text (p : Pattern) : Pattern.ofText p.text p.once p.clean = p := by
  have whole : p.text.toList = p.before.toList ++ (generatedMark.toList ++ p.after.toList) := by
    simp [Pattern.text]
  have once := p.once
  rw [← Pattern.text, whole] at once
  have split := Search.splitAt?_append (by decide) once
  rw [← whole] at split
  unfold Pattern.ofText
  split
  next b a h =>
    rw [split] at h
    obtain ⟨rfl, rfl⟩ := Prod.mk.inj (Option.some.inj h)
    simp
  next h =>
    rw [split] at h
    exact absurd h nofun

/-- What the hint of a label is given as. -/
def Label.hintDatum (l : Label) : Datum := l.hint.elim .null .text

theorem Label.make_ok (l : Label) : Label.make (.text l.name) (l.hintDatum) = .ok l := by
  have named := l.named
  have clean := l.clean
  obtain ⟨name, hint, _, _⟩ := l
  cases hint <;> simp [Label.make, Label.hintDatum, named, clean]

namespace Construct

variable {name : String}

theorem ints?_ints (ns : List Int) : Datum.ints? (ns.map .int) = some ns := by
  induction ns with
  | nil => rfl
  | cons n ns ih => simp [Datum.ints?, ih]

theorem reals?_reals (xs : List Binary64) : Datum.reals? (xs.map .real) = some xs := by
  induction xs with
  | nil => rfl
  | cons x xs ih => simp [Datum.reals?, ih]

theorem texts?_texts (ss : List String) : Datum.texts? (ss.map .text) = some ss := by
  induction ss with
  | nil => rfl
  | cons s ss ih => simp [Datum.texts?, ih]

theorem finites?_finites (xs : List Finite64) :
    Binary64.finites? (xs.map .finite) = some xs := by
  induction xs with
  | nil => rfl
  | cons x xs ih => simp [Binary64.finites?, ih]

def optionValues : Options → List Datum
  | .ints ns => ns.map .int
  | .reals xs => (xs.map .finite).map .real
  | .texts ss => ss.map .text

theorem sortedOptions_ok {o : Options} (h : o.Valid) :
    sortedOptions name (optionValues o) = .ok o := by
  cases o with
  | ints ns => simp [sortedOptions, optionValues, ints?_ints]
  | reals xs =>
    have none_int : Datum.ints? ((xs.map .finite).map .real) = none := by
      cases xs with
      | nil => exact absurd rfl h.1
      | cons x xs => rfl
    simp only [sortedOptions, optionValues, none_int, reals?_reals, finites?_finites]
  | texts ss =>
    obtain ⟨s, more, rfl⟩ := List.exists_cons_of_ne_nil h.1
    simp [sortedOptions, optionValues, Datum.ints?, Datum.reals?, Datum.texts?, texts?_texts]

theorem options_ok {o : Options} (h : o.Valid) : options name (optionValues o) = .ok o := by
  have some_value : (optionValues o).isEmpty = false := by
    cases o <;> simpa [optionValues] using h.1
  simp [options, some_value, sortedOptions_ok h, h, pure, Except.pure, bind, Except.bind]

theorem lengths_ok (kind : Kind) (b : Bounds Nat) :
    lengths kind name (.int b.low) (.int b.high) = .ok b := by
  have ordered := b.ordered
  simp [lengths, ordered]

theorem members_ok {seen : List String} {fields : List Field}
    (new : ∀ f ∈ fields, f.name ∉ seen) (distinct : (fields.map Field.name).Nodup) :
    members name seen (fields.map .field) = .ok fields := by
  induction fields generalizing seen with
  | nil => rfl
  | cons f rest ih =>
    obtain ⟨here, there⟩ := List.forall_mem_cons.1 new
    rw [List.map_cons, List.nodup_cons] at distinct
    have others : ∀ g ∈ rest, g.name ∉ f.name :: seen := by
      intro g hg hs
      rcases List.mem_cons.1 hs with same | hs
      · exact distinct.1 (same ▸ List.mem_map_of_mem hg)
      · exact there g hg hs
    have more := ih others distinct.2
    simp [members, here, more, pure, Except.pure, bind, Except.bind]

theorem alternatives_ok {fields : List Field} (h : ∀ f ∈ fields, f.kind = .object) :
    alternatives name (fields.map .field) = .ok fields := by
  induction fields with
  | nil => rfl
  | cons f rest ih =>
    obtain ⟨here, there⟩ := List.forall_mem_cons.1 h
    cases f with
    | object label below =>
      simp [alternatives, ih there, pure, Except.pure, bind, Except.bind]
    | _ => simp [Field.kind] at here

theorem pattern_ok (p : Pattern) : pattern name (.text p.text) = .ok p := by
  have once : Search.occurrences generatedMark.toList p.text.toList = 1 := p.once
  have clean : isClean p.text := p.clean
  simp [pattern, once, clean, p.ofText_text]

theorem integer_ok (l : Label) (b : Bounds Int) :
    integer (.text l.name) l.hintDatum (.int b.low) (.int b.high) = .ok (.integer l b) := by
  have ordered := b.ordered
  simp [integer, l.make_ok, ordered, pure, Except.pure, bind, Except.bind]

theorem not_lt_of_le {x y : Finite64} (h : x ≤ y) :
    (Numeric.real (.finite y)).lt (.real (.finite x)) = false := by
  have le : x.units ≤ y.units := h
  rw [Numeric.lt_eq_decide rfl rfl, decide_eq_false_iff_not]
  exact Int.not_lt.2 le

theorem real_ok (l : Label) (b : Bounds Finite64) :
    real (.text l.name) l.hintDatum (.real b.low) (.real b.high) = .ok (.real l b) := by
  have ordered := b.ordered
  have forward := not_lt_of_le ordered
  unfold real
  rw [l.make_ok]
  dsimp only [bind, Except.bind, Datum.numeric?, Numeric.toFinite?]
  rw [forward, if_neg Bool.false_ne_true, dif_pos ordered]
  rfl

theorem string_ok (l : Label) (b : Bounds Nat) :
    string (.text l.name) l.hintDatum (.int b.low) (.int b.high) = .ok (.string l b) := by
  simp [string, l.make_ok, lengths_ok, pure, Except.pure, bind, Except.bind]

def scalarDatum : Scalar → Datum
  | .int n => .int n
  | .real x => .real x
  | .text s => .text s

theorem constant_ok (l : Label) (v : Scalar) :
    constant (.text l.name) l.hintDatum (scalarDatum v) = .ok (.constant l v) := by
  cases v <;> simp [constant, scalarDatum, l.make_ok, pure, Except.pure, bind, Except.bind]

theorem boolean_ok (l : Label) : boolean (.text l.name) l.hintDatum = .ok (.boolean l) := by
  simp [boolean, l.make_ok, pure, Except.pure, bind, Except.bind]

theorem choice_ok (l : Label) {o : Options} (h : o.Valid) :
    choice (.text l.name) l.hintDatum [.list (optionValues o)] = .ok (.choice l o) := by
  simp [choice, l.make_ok, Datum.spread, options_ok h, pure, Except.pure, bind, Except.bind]

theorem object_ok (l : Label) {fields : List Field} (h : (fields.map Field.name).Nodup) :
    object (.text l.name) l.hintDatum [.list (fields.map .field)] = .ok (.object l fields) := by
  have all : members l.name [] (fields.map .field) = .ok fields := members_ok (by simp) h
  simp [object, l.make_ok, Datum.spread, all, pure, Except.pure, bind, Except.bind]

theorem variant_ok (l : Label) {fields : List Field} (some_field : fields ≠ [])
    (h : ∀ f ∈ fields, f.kind = .object) :
    variant (.text l.name) l.hintDatum [.list (fields.map .field)] = .ok (.variant l fields) := by
  have all : alternatives l.name (fields.map .field) = .ok fields := alternatives_ok h
  unfold variant
  rw [l.make_ok]
  simp only [Datum.spread, bind, Except.bind]
  split
  next hn => exact absurd (List.map_eq_nil_iff.1 hn) some_field
  next => rw [all]; rfl

theorem array_ok (l : Label) (element : Field) (b : Bounds Nat) :
    array (.text l.name) l.hintDatum (.field element) (.int b.low) (.int b.high) =
      .ok (.array l element b) := by
  simp [array, l.make_ok, lengths_ok, pure, Except.pure, bind, Except.bind]

theorem optional_ok (l : Label) (inner : Field) :
    optional (.text l.name) l.hintDatum (.field inner) = .ok (.optional l inner) := by
  simp [optional, l.make_ok, pure, Except.pure, bind, Except.bind]

theorem template_ok (l : Label) (p : Pattern) (b : Bounds Nat) :
    template (.text l.name) l.hintDatum (.text p.text) (.int b.low) (.int b.high) =
      .ok (.template l p b) := by
  simp [template, l.make_ok, pattern_ok, lengths_ok, pure, Except.pure, bind, Except.bind]

end Construct

open Construct in
/-- A well-formed field can be built out of the fields below it. -/
theorem Field.WellFormed.constructed {f : Field} (h : f.WellFormed) : Constructed f := by
  have below : ∀ {fields : List Field}, (∀ f ∈ fields, Constructed f) →
      ∀ g, .field g ∈ Datum.spread [.list (fields.map .field)] → Constructed g := by
    intro fields all g hg
    obtain ⟨f, hf, same⟩ := List.mem_map.1 hg
    exact Datum.field.inj same ▸ all f hf
  induction h with
  | integer l b => exact .integer (integer_ok l b)
  | real l b => exact .real (real_ok l b)
  | string l b => exact .string (string_ok l b)
  | constant l v => exact .constant (constant_ok l v)
  | boolean l => exact .boolean (boolean_ok l)
  | choice l o valid => exact .choice (choice_ok l valid)
  | object l members _ distinct ih => exact .object (below ih) (object_ok l distinct)
  | variant l alternatives some_field _ objects ih =>
    exact .variant (below ih) (variant_ok l some_field objects)
  | array l element b _ ih => exact .array ih (array_ok l element b)
  | optional l inner _ ih => exact .optional ih (optional_ok l inner)
  | template l p b => exact .template (template_ok l p b)

/-- The fields that can be built are the well-formed ones. -/
theorem constructed_iff {f : Field} : Constructed f ↔ f.WellFormed :=
  ⟨Constructed.wellFormed, Field.WellFormed.constructed⟩

end FieldSchema
