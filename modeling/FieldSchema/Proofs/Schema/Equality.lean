import FieldSchema.Grammar.Compile
import FieldSchema.Proofs.Grammar.Compiled
import FieldSchema.Proofs.Grammar.Refusal
import FieldSchema.Proofs.Schema.Buildable
import FieldSchema.Proofs.Validation.Decision
import FieldSchema.Schema.Equality
import FieldSchema.Template.Placeholder

/-! What equal schemas have in common. A grammar, a template and a verdict do not depend on hints,
and equal schemas differ in nothing else but in how they write their numbers. -/
namespace FieldSchema

section Hints

def Label.withoutHint (label : Label) : Label := { label with hint := none }

namespace Field

mutual

def withoutHints : Field → Field
  | integer label b => integer label.withoutHint b
  | real label b => real label.withoutHint b
  | string label b => string label.withoutHint b
  | constant label value => constant label.withoutHint value
  | boolean label => boolean label.withoutHint
  | choice label options => choice label.withoutHint options
  | object label members => object label.withoutHint (allWithoutHints members)
  | variant label alternatives => variant label.withoutHint (allWithoutHints alternatives)
  | array label element b => array label.withoutHint (withoutHints element) b
  | optional label inner => optional label.withoutHint (withoutHints inner)
  | template label p b => template label.withoutHint p b

def allWithoutHints : List Field → List Field
  | [] => []
  | f :: rest => withoutHints f :: allWithoutHints rest

end

@[simp] theorem name_withoutHints (f : Field) : f.withoutHints.name = f.name := by
  cases f <;> rw [withoutHints] <;> rfl

theorem isOptional_withoutHints (f : Field) : f.withoutHints.isOptional = f.isOptional := by
  cases f <;> rw [withoutHints] <;> rfl

theorem memberField_withoutHints (f : Field) :
    f.withoutHints.memberField = f.memberField.withoutHints := by
  cases f <;> simp only [withoutHints, memberField]

theorem allWithoutHints_eq_map (fields : List Field) :
    allWithoutHints fields = fields.map withoutHints := by
  induction fields with
  | nil => rfl
  | cons f rest ih => rw [allWithoutHints, ih, List.map_cons]

end Field

end Hints

section Grammar

namespace Grammar

variable {σ : Type} {ask : Field → Production → σ → String × σ}

def Hintless (ask : Field → Production → σ → String × σ) : Prop :=
  ∀ f p s, ask f.withoutHints p s = ask f p s

theorem hintless_request : Hintless Rules.request := by
  intro f p r
  have shared : sharedName? f.withoutHints = sharedName? f := by
    cases f <;> rw [Field.withoutHints] <;> rfl
  unfold Rules.request
  rw [shared, f.name_withoutHints]

mutual

theorem compileField_withoutHints (h : Hintless ask) (f : Field) :
    compileField ask f.withoutHints = compileField ask f := by
  have same : emit ask f.withoutHints = emit ask f := by
    funext p
    exact congrArg _ (funext fun s => h f p s)
  cases f with
  | integer | real | string | boolean | constant | choice | template =>
    rw [Field.withoutHints] at same ⊢
    rw [compileField, compileField, same]
  | object label fields =>
    rw [Field.withoutHints] at same ⊢
    rw [compileField, compileField, same, compileMembers_withoutHints h fields]
  | variant label alternatives =>
    rw [Field.withoutHints] at same ⊢
    rw [compileField, compileField, same, compileAll_withoutHints h alternatives]
  | array label element b =>
    rw [Field.withoutHints] at same ⊢
    rw [compileField, compileField, same, compileField_withoutHints h element]
  | optional label inner =>
    rw [Field.withoutHints] at same ⊢
    rw [compileField, compileField, same, compileField_withoutHints h inner]

theorem compileMembers_withoutHints (h : Hintless ask) (fields : List Field) :
    compileMembers ask (Field.allWithoutHints fields) = compileMembers ask fields := by
  cases fields with
  | nil => rfl
  | cons f rest =>
    have first := compileField_withoutHints h f
    have more := compileMembers_withoutHints h rest
    rw [Field.allWithoutHints]
    cases f with
    | optional label inner =>
      have value := compileField_withoutHints h inner
      rw [Field.withoutHints, compileMembers, compileMembers, value, more]
      rfl
    | _ =>
      rw [Field.withoutHints] at first ⊢
      rw [compileMembers, compileMembers, first, more]
      · rfl
      · simp
      · simp

theorem compileAll_withoutHints (h : Hintless ask) (fields : List Field) :
    compileAll ask (Field.allWithoutHints fields) = compileAll ask fields := by
  cases fields with
  | nil => rfl
  | cons f rest =>
    rw [Field.allWithoutHints, compileAll, compileAll, compileField_withoutHints h f,
      compileAll_withoutHints h rest]

end

end Grammar

theorem Field.grammar_withoutHints (f : Field) : f.withoutHints.grammar = f.grammar := by
  unfold Field.grammar
  rw [Grammar.compileField_withoutHints Grammar.hintless_request f]

end Grammar

section Template

namespace Template

mutual

theorem placeholder_withoutHints (f : Field) : placeholder f.withoutHints = placeholder f := by
  cases f with
  | integer | real | string | boolean | constant | choice | template =>
    rw [Field.withoutHints, placeholder, placeholder]
  | object label fields =>
    rw [Field.withoutHints, placeholder, placeholder, memberPlaceholders_withoutHints fields]
  | variant label alternatives =>
    rw [Field.withoutHints, placeholder, placeholder, alternativeTexts_withoutHints alternatives]
  | array label element b =>
    rw [Field.withoutHints, placeholder, placeholder, placeholder_withoutHints element]
  | optional label inner =>
    rw [Field.withoutHints, placeholder, placeholder, placeholder_withoutHints inner]

theorem memberPlaceholders_withoutHints (fields : List Field) :
    memberPlaceholders (Field.allWithoutHints fields) = memberPlaceholders fields := by
  cases fields with
  | nil => rfl
  | cons f rest =>
    rw [Field.allWithoutHints, memberPlaceholders, memberPlaceholders, f.name_withoutHints,
      placeholder_withoutHints f, memberPlaceholders_withoutHints rest]

theorem alternativeTexts_withoutHints (fields : List Field) :
    alternativeTexts (Field.allWithoutHints fields) = alternativeTexts fields := by
  cases fields with
  | nil => rfl
  | cons f rest =>
    rw [Field.allWithoutHints, alternativeTexts, alternativeTexts, placeholder_withoutHints f,
      alternativeTexts_withoutHints rest]

end

end Template

theorem Field.templateText_withoutHints (f : Field) (layout : Json.Layout) :
    f.withoutHints.templateText layout = f.templateText layout := by
  rw [templateText, templateText, Template.placeholder_withoutHints]

end Template

section Validation

namespace Validation

mutual

theorem check_withoutHints (f : Field) (path : Path) (v : Json) :
    check path v f.withoutHints = check path v f := by
  cases f with
  | integer | real | string | boolean | constant | choice | template =>
    rw [Field.withoutHints]
    cases v <;> rfl
  | object label fields =>
    rw [Field.withoutHints]
    cases v with
    | object members =>
      have known := checkMembers_withoutHints fields path members
      have unexpected : checkUnexpected path members (Field.allWithoutHints fields) =
          checkUnexpected path members fields := by
        simp [checkUnexpected, Field.allWithoutHints_eq_map, Function.comp_def]
      rw [check, known, unexpected]
      rfl
    | _ => rfl
  | variant label alternatives =>
    rw [Field.withoutHints]
    cases v with
    | object members =>
      have names : (Field.allWithoutHints alternatives).map Field.name =
          alternatives.map Field.name := by
        simp [Field.allWithoutHints_eq_map, Function.comp_def]
      have tried := checkAlternatives_withoutHints alternatives path (.object members)
        (alternatives.map Field.name)
      rw [check, names, tried]
      rfl
    | _ => rfl
  | array label element b =>
    rw [Field.withoutHints]
    cases v with
    | array items =>
      have item := fun i v => check_withoutHints element (path.item i) v
      rw [check, check]
      simp only [item]
    | _ => rfl
  | optional label inner =>
    rw [Field.withoutHints]
    cases v with
    | null => rfl
    | _ => exact check_withoutHints inner path _

theorem checkMembers_withoutHints (fields : List Field) (path : Path)
    (members : List (Text × Json)) :
    checkMembers path members (Field.allWithoutHints fields) =
      checkMembers path members fields := by
  cases fields with
  | nil => rfl
  | cons f rest =>
    have value : ∀ v, check (path.member f.name) v f.memberField.withoutHints =
        check (path.member f.name) v f.memberField := by
      intro v
      cases f with
      | optional label inner => exact check_withoutHints inner _ v
      | _ => exact check_withoutHints _ _ v
    rw [Field.allWithoutHints, checkMembers_cons, checkMembers_cons, f.name_withoutHints,
      f.isOptional_withoutHints, f.memberField_withoutHints, checkMembers_withoutHints rest]
    simp only [value]

theorem checkAlternatives_withoutHints (fields : List Field) (path : Path) (v : Json)
    (names : List String) : checkAlternatives path v names (Field.allWithoutHints fields) =
      checkAlternatives path v names fields := by
  cases fields with
  | nil => rfl
  | cons f rest =>
    rw [Field.allWithoutHints, checkAlternatives, checkAlternatives, f.name_withoutHints,
      check_withoutHints f, checkAlternatives_withoutHints rest]

end

theorem validate_withoutHints (f : Field) (text : Option (List Char)) :
    validate (.field f.withoutHints) text = validate (.field f) text := by
  have root : ∀ v, checkRoot v (.field f.withoutHints) = checkRoot v (.field f) := by
    intro v
    rw [checkRoot, checkRoot, f.name_withoutHints, check_withoutHints f]
  unfold validate
  simp only [root]

end Validation

end Validation

section Same

theorem Label.withoutHint_eq {l m : Label} (h : l.name = m.name) :
    l.withoutHint = m.withoutHint := by
  cases l
  cases m
  obtain rfl := h
  rfl

theorem Scalar.eq_of_same {v w : Scalar} (h : v.same w) (hn : v.numeric? = w.numeric?) : v = w := by
  cases v <;> cases w <;> simp_all [Scalar.same, Scalar.numeric?]

theorem eq_of_sameItems {as bs : List Scalar} (h : sameItems Scalar.same as bs)
    (hn : as.filterMap Scalar.numeric? = bs.filterMap Scalar.numeric?) : as = bs := by
  induction as generalizing bs with
  | nil =>
    cases bs with
    | nil => rfl
    | cons => exact absurd h (by simp [sameItems])
  | cons a as ih =>
    cases bs with
    | nil => exact absurd h (by simp [sameItems])
    | cons b bs =>
      rw [sameItems, Bool.and_eq_true] at h
      have first : a.numeric? = b.numeric? ∧
          as.filterMap Scalar.numeric? = bs.filterMap Scalar.numeric? := by
        rw [List.filterMap_cons, List.filterMap_cons] at hn
        cases a <;> cases b <;> simp_all [Scalar.same, Scalar.numeric?]
      rw [Scalar.eq_of_same h.1 first.1, ih h.2 first.2]

theorem Options.scalars_injective {o p : Options} (ho : o.Valid) (h : o.scalars = p.scalars) :
    o = p := by
  have ints : Function.Injective Scalar.int := fun _ _ => Scalar.int.inj
  have reals : Function.Injective Scalar.real := fun _ _ => Scalar.real.inj
  have texts : Function.Injective Scalar.text := fun _ _ => Scalar.text.inj
  cases o with
  | ints xs =>
    obtain ⟨x, rest, rfl⟩ := List.exists_cons_of_ne_nil ho.1
    cases p with
    | ints ys => rw [ints.list_map h]
    | reals ys | texts ys => cases ys <;> simp [scalars] at h
  | reals xs =>
    obtain ⟨x, rest, rfl⟩ := List.exists_cons_of_ne_nil ho.1
    cases p with
    | reals ys => rw [reals.list_map h]
    | ints ys | texts ys => cases ys <;> simp [scalars] at h
  | texts xs =>
    obtain ⟨x, rest, rfl⟩ := List.exists_cons_of_ne_nil ho.1
    cases p with
    | texts ys => rw [texts.list_map h]
    | ints ys | reals ys => cases ys <;> simp [scalars] at h

namespace Field

/-- What the data of equal fields have in common. -/
inductive SameData : Field → Field → Prop where
  | integer {l m b} : SameData (integer l b) (integer m b)
  | real {l m b c} : SameData (real l b) (real m c)
  | string {l m b} : SameData (string l b) (string m b)
  | constant {l m v w} : v.same w → SameData (constant l v) (constant m w)
  | boolean {l m} : SameData (boolean l) (boolean m)
  | choice {l m o p} : o.same p → SameData (choice l o) (choice m p)
  | object {l m fs gs} : sameAll fs gs → SameData (object l fs) (object m gs)
  | variant {l m fs gs} : sameAll fs gs → SameData (variant l fs) (variant m gs)
  | array {l m f g b} : same f g → SameData (array l f b) (array m g b)
  | optional {l m f g} : same f g → SameData (optional l f) (optional m g)
  | template {l m p b} : SameData (template l p b) (template m p b)

theorem sameData_of_same {f g : Field} (h : f.same g) : f.name = g.name ∧ SameData f g := by
  unfold same at h
  rw [Bool.and_eq_true, beq_iff_eq] at h
  refine ⟨h.1, ?_⟩
  have data := h.2
  split at data
  next => exact beq_iff_eq.1 data ▸ .integer
  next => exact .real
  next => exact beq_iff_eq.1 data ▸ .string
  next => exact .constant data
  next => exact .boolean
  next => exact .choice data
  next => exact .object data
  next => exact .variant data
  next =>
    rw [Bool.and_eq_true, beq_iff_eq] at data
    exact data.2 ▸ .array data.1
  next => exact .optional data
  next =>
    rw [Bool.and_eq_true, beq_iff_eq, beq_iff_eq] at data
    exact data.1 ▸ data.2 ▸ .template
  next => exact absurd data Bool.false_ne_true

theorem sameAll_cons {f g : Field} {fs gs : List Field} :
    sameAll (f :: fs) (g :: gs) ↔ f.same g ∧ sameAll fs gs := by
  rw [sameAll, Bool.and_eq_true]

/-- The numbers of a field that are compared by value. -/
def numbers : Field → List Numeric
  | real _ b => [b.low, b.high]
  | constant _ value => [value].filterMap Scalar.numeric?
  | choice _ options => options.scalars.filterMap Scalar.numeric?
  | _ => []

mutual

theorem length_preorder_of_same (f g : Field) (h : f.same g) :
    f.preorder.length = g.preorder.length := by
  obtain ⟨-, data⟩ := sameData_of_same h
  cases data with
  | integer | real | string | constant | boolean | choice | template => rfl
  | @object l m fs gs data | @variant l m fs gs data =>
    rw [preorder, preorder, List.length_cons, List.length_cons,
      length_preorderAll_of_same fs gs data]
  | @array l m f g b data | @optional l m f g data =>
    rw [preorder, preorder, List.length_cons, List.length_cons, length_preorder_of_same f g data]

theorem length_preorderAll_of_same (fs gs : List Field) (h : sameAll fs gs) :
    (preorder.preorderAll fs).length = (preorder.preorderAll gs).length := by
  cases fs with
  | nil =>
    cases gs with
    | nil => rfl
    | cons => exact absurd h Bool.false_ne_true
  | cons f fs =>
    cases gs with
    | nil => exact absurd h Bool.false_ne_true
    | cons g gs =>
      obtain ⟨first, rest⟩ := sameAll_cons.1 h
      rw [preorder.preorderAll, preorder.preorderAll, List.length_append, List.length_append,
        length_preorder_of_same f g first, length_preorderAll_of_same fs gs rest]

end

theorem numbers_eq_of_map {f g : Field} (h : f.preorder.map numbers = g.preorder.map numbers) :
    f.numbers = g.numbers := by
  rw [preorder_eq, preorder_eq, List.map_cons, List.map_cons] at h
  exact (List.cons.inj h).1

mutual

/-- Equal schemas that write their numbers alike differ in hints only. -/
theorem withoutHints_eq_of_same (f g : Field) (hf : f.WellFormed) (h : f.same g)
    (hn : f.preorder.map numbers = g.preorder.map numbers) : f.withoutHints = g.withoutHints := by
  obtain ⟨name, data⟩ := sameData_of_same h
  have label := Label.withoutHint_eq name
  have own := numbers_eq_of_map hn
  have below := closed_wellFormed f hf
  cases data with
  | integer | string | boolean | template =>
    rw [withoutHints, withoutHints]
    congr 1
  | @real l m b c =>
    obtain ⟨low, high⟩ : b.low = c.low ∧ b.high = c.high := by simpa [numbers] using own
    have bounds : b = c := by
      cases b
      cases c
      obtain rfl := low
      obtain rfl := high
      rfl
    rw [withoutHints, withoutHints, bounds]
    congr 1
  | @constant l m v w data =>
    have items : sameItems Scalar.same [v] [w] := by simpa [sameItems] using data
    have value : v = w := List.singleton_inj.1 (eq_of_sameItems items own)
    rw [withoutHints, withoutHints, value]
    congr 1
  | @choice l m o p data =>
    have options : o = p := Options.scalars_injective (wellFormed_iff_children.1 hf).1
      (eq_of_sameItems data own)
    rw [withoutHints, withoutHints, options]
    congr 1
  | @object l m fs gs data | @variant l m fs gs data =>
    rw [preorder, preorder, List.map_cons, List.map_cons] at hn
    rw [withoutHints, withoutHints,
      allWithoutHints_eq_of_same fs gs below data (List.cons.inj hn).2]
    congr 1
  | @array l m f g b data | @optional l m f g data =>
    rw [preorder, preorder, List.map_cons, List.map_cons] at hn
    have inner := below f (by simp [children])
    rw [withoutHints, withoutHints, withoutHints_eq_of_same f g inner data (List.cons.inj hn).2]
    congr 1

theorem allWithoutHints_eq_of_same (fs gs : List Field) (hf : ∀ f ∈ fs, f.WellFormed)
    (h : sameAll fs gs) (hn : (preorder.preorderAll fs).map numbers =
      (preorder.preorderAll gs).map numbers) : allWithoutHints fs = allWithoutHints gs := by
  cases fs with
  | nil =>
    cases gs with
    | nil => rfl
    | cons => exact absurd h Bool.false_ne_true
  | cons f fs =>
    cases gs with
    | nil => exact absurd h Bool.false_ne_true
    | cons g gs =>
      obtain ⟨first, rest⟩ := sameAll_cons.1 h
      obtain ⟨hfirst, hrest⟩ := List.forall_mem_cons.1 hf
      have length : (f.preorder.map numbers).length = (g.preorder.map numbers).length := by
        rw [List.length_map, List.length_map, length_preorder_of_same f g first]
      rw [preorder.preorderAll, preorder.preorderAll, List.map_append, List.map_append] at hn
      obtain ⟨front, back⟩ := List.append_inj hn length
      rw [allWithoutHints, allWithoutHints, withoutHints_eq_of_same f g hfirst first front,
        allWithoutHints_eq_of_same fs gs hrest rest back]

end

end Field

/-- Equal schemas that also write their numbers alike, place by place, have the same grammar, the
same template and the same verdict on every text. -/
theorem artifacts_eq_of_same {a b : Field} (ha : Constructed a) (h : a.same b)
    (hn : a.preorder.map Field.numbers = b.preorder.map Field.numbers) :
    a.grammar = b.grammar ∧ (∀ layout, a.templateText layout = b.templateText layout) ∧
      ∀ text, Validation.validate (.field a) text = Validation.validate (.field b) text := by
  have bare := Field.withoutHints_eq_of_same a b ha.wellFormed h hn
  refine ⟨?_, fun layout => ?_, fun text => ?_⟩
  · rw [← a.grammar_withoutHints, bare, b.grammar_withoutHints]
  · rw [← a.templateText_withoutHints, bare, b.templateText_withoutHints]
  · rw [← Validation.validate_withoutHints, bare, Validation.validate_withoutHints]

end Same

/-- A price within bounds and one of two grades, with a hint or none. -/
def priced (hint : Option String) : Field := .object ⟨"offer", hint, by decide, by decide⟩
  [.real ⟨"price", none, by decide, by decide⟩ ⟨.zero true, .one, by decide +kernel⟩,
    .optional ⟨"grade", hint, by decide, by decide⟩
      (.choice ⟨"grade", none, by decide, by decide⟩ (.ints [1, 2]))]

theorem priced_artifacts_eq :
    Constructed (priced none) ∧ (priced none).same (priced (some "in euros")) ∧
    (priced none).preorder.map Field.numbers =
      (priced (some "in euros")).preorder.map Field.numbers ∧
    (priced none).grammar = (priced (some "in euros")).grammar := by
  have constructed : Constructed (priced none) := Field.WellFormed.constructed (by decide)
  have same : (priced none).same (priced (some "in euros")) := by decide +kernel
  exact ⟨constructed, same, rfl, (artifacts_eq_of_same constructed same rfl).1⟩

def constantOne (value : Scalar) : Field := .constant ⟨"c", none, by decide, by decide⟩ value

/-- The integer and the double are the same value, but their grammars derive different texts, and
their templates differ. -/
theorem constantOne_artifacts_ne :
    Constructed (constantOne (.int 1)) ∧ Constructed (constantOne (.real .one)) ∧
    (constantOne (.int 1)).same (constantOne (.real .one)) ∧
    (constantOne (.int 1)).grammar ≠ (constantOne (.real .one)).grammar ∧
    (constantOne (.int 1)).templateText .inline ≠
      (constantOne (.real .one)).templateText .inline := by
  have wellFormed : ∀ v, (constantOne v).WellFormed := fun v => .constant _ v
  refine ⟨(wellFormed _).constructed, (wellFormed _).constructed, by decide +kernel, ?_,
    by decide +kernel⟩
  intro h
  obtain ⟨g, int⟩ := Grammar.grammar_isOk_iff.2 (show (constantOne (.int 1)).Spellable by decide)
  have real : (constantOne (.real .one)).grammar = .ok g := h ▸ int
  have derived := (Grammar.derivable_free_iff (wellFormed _) int).2 (rfl : _ = Grammar.scalarText _)
  have same := (Grammar.derivable_free_iff (wellFormed _) real).1 derived
  have texts : Grammar.scalarText (.int 1) ≠ Grammar.scalarText (.real .one) := by decide +kernel
  exact texts same

end FieldSchema
