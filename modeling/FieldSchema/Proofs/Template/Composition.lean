import FieldSchema.Proofs.Json.Legible
import FieldSchema.Proofs.Schema.Nesting
import FieldSchema.Proofs.Template.Contents
import FieldSchema.Proofs.Template.Embedding
import FieldSchema.Template.Limited
import Mathlib.Data.List.Nodup

/-! A template is made of the templates of the fields below. What a reader finds at a member of an
object is what it finds in the template of the member; below a field of another kind the description
holds the other templates as JSON texts, and they are read as what they are on their own. -/
namespace FieldSchema

open Template

namespace Field

variable {f g : Field} {layout : Json.Layout}

theorem mem_spelledIntegers {n : Int} (h : n ∈ f.integers) : n ∈ f.spelledIntegers := by
  have scalar := mem_integers.1 h
  cases f with
  | integer label b => simpa [scalars, spelledIntegers] using scalar
  | constant label value => cases value <;> simp_all [scalars, spelledIntegers]
  | choice label options => cases options <;> simp_all [scalars, Options.scalars, spelledIntegers]
  | _ => exact absurd scalar List.not_mem_nil

theorem Writable.legible {n : Int} (hf : f.Writable) (hg : g ∈ f.preorder) (hn : n ∈ g.integers) :
    Legible n := hf g hg n (mem_spelledIntegers hn)

theorem find?_long_eq_none : ((f.preorder.flatMap spelledIntegers).find? fun n =>
    Json.digitLimit < (Nat.toDigits 10 n.natAbs).length) = none ↔ f.Writable := by
  rw [List.find?_eq_none, List.forall_mem_flatMap]
  simp only [decide_eq_true_eq, Nat.not_lt]
  rfl

/-- There is a template exactly if all its integers can be written. -/
theorem writtenTemplate_eq_ok_iff {text : String} :
    f.writtenTemplate layout = .ok text ↔ f.Writable ∧ text = f.templateText layout := by
  rw [writtenTemplate, ← find?_long_eq_none]
  split
  next found => simp [found]
  next none => simp [none, eq_comm]

/-- All integers of a field can be written, and its template nests few enough calls. -/
def HasTemplate (limits : Limits) (f : Field) : Prop :=
  f.Writable ∧ f.templateNesting ≤ limits.calls

theorem closed_hasTemplate (limits : Limits) : Closed (HasTemplate limits) := fun f hf g hg =>
  ⟨closed_writable f hf.1 g hg, (nestedCalls_child_le hg false).trans hf.2⟩

theorem templateWithin_eq_ok_iff {limits : Limits} {text : String} :
    f.templateWithin limits layout = .ok text ↔
      f.HasTemplate limits ∧ text = f.templateText layout := by
  unfold templateWithin HasTemplate
  split
  next deep => simp [Nat.not_le.2 deep]
  next enough =>
    rw [and_iff_left (Nat.le_of_not_lt enough)]
    refine Iff.trans ?_ writtenTemplate_eq_ok_iff
    cases f.writtenTemplate layout <;> simp [Except.mapError]

end Field

variable {limits : Limits} {layout : Json.Layout} {f g : Field}

/-- The value that a reader finds in the template of a field, if there is one. -/
def seen? (limits : Limits) (layout : Json.Layout) (f : Field) : Option Json :=
  match f.templateWithin limits layout with
  | .ok text => (Json.read text.toList).toOption
  | .error _ => none

section Seen

theorem seen?_of_hasTemplate (hb : layout.Blank) (hf : f.HasTemplate limits) :
    seen? limits layout f = (Json.within (placeholder f).depth (.ok (found f))).toOption := by
  rw [seen?, Field.templateWithin_eq_ok_iff.2 ⟨hf, rfl⟩]
  dsimp only
  rw [read_template hb fun _ hg _ hn => hf.1.legible hg hn]

theorem seen?_eq_none (hf : ¬ f.HasTemplate limits) : seen? limits layout f = none := by
  unfold seen?
  split
  next text ht => exact absurd (Field.templateWithin_eq_ok_iff.1 ht).1 hf
  next => rfl

theorem seen?_eq_some_iff (hb : layout.Blank) {v : Json} : seen? limits layout f = some v ↔
    f.HasTemplate limits ∧ (placeholder f).depth ≤ Json.depthLimit ∧ v = found f := by
  by_cases hf : f.HasTemplate limits
  · rw [seen?_of_hasTemplate hb hf, Json.within]
    split
    next deep => simp [hf, deep, Except.toOption, eq_comm]
    next deep => simp [deep, Except.toOption]
  · simp [seen?_eq_none hf, hf]

end Seen

section Descriptions

variable {u : List Char}

theorem around_ofList {t : Text} (ht : t = Text.ofList u) (before after : String) :
    (before ++ t ++ after : Text) = Text.ofList (before.toList ++ u ++ after.toList) := by
  rw [ht, Text.ofList_append, Text.ofList_append]
  rfl

theorem joinLines_ofList (separator : List Char) (texts : List (List Char)) :
    joinLines (Text.ofList separator) (texts.map Text.ofList) =
      Text.ofList (separator.intercalate texts) := by
  induction texts with
  | nil => rfl
  | cons t texts ih =>
    cases texts with
    | nil => rw [List.intercalate_singleton]; rfl
    | cons u texts =>
      rw [List.intercalate_cons_cons, Text.ofList_append, Text.ofList_append, ← ih]
      rfl

theorem alternativeTexts_eq (alternatives : List Field) :
    alternativeTexts alternatives = alternatives.map fun g => inlined (placeholder g) := by
  induction alternatives with
  | nil => rfl
  | cons f rest ih => rw [alternativeTexts, ih, List.map_cons]

/-- The characters of a template that is put into a description. -/
def embedded (f : Field) : List Char := (inlined (placeholder f)).chars

theorem embedded_eq (h : inlined (placeholder f) = Text.ofList u) :
    inlined (placeholder f) = Text.ofList (embedded f) := by
  rw [embedded, h, Text.chars_ofList]

theorem joinLines_alternativeTexts {alternatives : List Field}
    (h : ∀ g ∈ alternatives, inlined (placeholder g) = Text.ofList (embedded g)) :
    joinLines "\nOR\n" (alternativeTexts alternatives) =
      Text.ofList ("\nOR\n".toList.intercalate (alternatives.map embedded)) := by
  have texts : alternativeTexts alternatives = (alternatives.map embedded).map Text.ofList := by
    rw [alternativeTexts_eq, List.map_map]
    exact List.map_congr_left h
  rw [texts]
  exact joinLines_ofList _ _

/-- A description is made of characters. -/
theorem inlined_placeholder (f : Field) :
    inlined (placeholder f) = Text.ofList (embedded f) := by
  induction f using Field.induct_children with
  | step f below =>
    cases f with
    | constant label value => cases value <;> exact embedded_eq rfl
    | object label fields => exact embedded_eq rfl
    | choice label options => exact embedded_eq (around_ofList rfl _ _)
    | array label element b =>
      exact embedded_eq (around_ofList (below element (by simp [Field.children])) _ _)
    | optional label inner =>
      exact embedded_eq (around_ofList (below inner (by simp [Field.children])) _ _)
    | variant label alternatives =>
      exact embedded_eq ((List.append_nil _).symm.trans
        (around_ofList (joinLines_alternativeTexts below) _ ""))
    | _ => exact embedded_eq rfl

theorem found_text (h : placeholder f = .string (Text.ofList u)) :
    found f = .string (Text.ofList (u.map straight)) := by
  have points : (Text.ofList u).map CodePoint.straight = Text.ofList (u.map straight) := by
    rw [Text.ofList, Text.ofList, List.map_map, List.map_map]
    rfl
  rw [found, h, Json.reread, Json.rereadText, points, Text.joinPairs_ofList]

theorem exists_text_of_found {t : Text} (h : found f = .string t) :
    ∃ t, placeholder f = .string t := by
  rw [found] at h
  cases hp : placeholder f with
  | string t => exact ⟨t, rfl⟩
  | _ => simp [hp, Json.reread] at h

theorem map_straight_of_straighten {s : String} (h : straighten s = s) :
    s.toList.map straight = s.toList := by
  rw [straighten] at h
  exact String.ofList_injective (h.trans s.ofList_toList.symm)

/-- A description around a text is read as one around the straightened text. -/
theorem found_description {before after : String} {t : Text} (ht : t = Text.ofList u)
    (h : placeholder f = .string (before ++ t ++ after))
    (same : straighten before = before ∧ straighten after = after) :
    found f = .string (before ++ Text.ofList (u.map straight) ++ after) := by
  rw [around_ofList ht] at h
  rw [found_text h, List.map_append, List.map_append, map_straight_of_straighten same.1,
    map_straight_of_straighten same.2, around_ofList rfl]

end Descriptions

section Composition

/-- A text that stands for a field inside a description: what the template of the field says if
that is a text, and otherwise a JSON text of what it says. -/
def StandsFor (limits : Limits) (layout : Json.Layout) (g : Field) (s : Text) : Prop :=
  match seen? limits layout g with
  | some (.string t) => s = t
  | v => ∃ u, s = Text.ofList u ∧ (Json.read u).toOption = v

/-- How the template of a field is made of the templates of the fields below it. -/
def Composed (limits : Limits) (layout : Json.Layout) (v : Json) : Field → Prop
  | .object _ fields => ∃ members, v = .object members ∧
      List.Forall₂ (fun g m => m.1 = Text.ofString g.name ∧ seen? limits layout g = some m.2) fields
        members
  | .array _ element b => ∃ s, StandsFor limits layout element s ∧
      v = .string (s!"<array of {b.low}–{b.high} elements, each element should be: " ++ s ++ ">")
  | .optional _ inner => ∃ s, StandsFor limits layout inner s ∧
      v = .string ("<optional: " ++ s ++ ">")
  | .choice _ options => ∃ s, v = .string ("<choice between " ++ Text.ofList s ++ ">") ∧
      Json.read s = .ok (.array (options.scalars.map fun o => o.straight.toJson))
  | .variant _ alternatives => ∃ body,
      v = .string ("<choose one of the following structures>\n" ++ Text.ofList body) ∧
      List.Forall₂ (fun g s => (Json.read s).toOption = seen? limits layout g) alternatives
        (Search.split '\n' "OR\n".toList body)
  | _ => True

theorem embedded_of_not_text (h : ∀ t, placeholder g ≠ .string t) :
    embedded g = revealed .inline (placeholder g) := by
  rw [embedded, inlined]
  · exact Text.chars_ofList _
  · exact h

/-- A template that is no text is embedded as a JSON text. -/
theorem read_embedded (hb : layout.Blank) (hg : g.HasTemplate limits)
    (h : ∀ t, placeholder g ≠ .string t) :
    (Json.read (embedded g)).toOption = seen? limits layout g := by
  have legible : ∀ n ∈ (placeholder g).integers, Legible n := by
    intro n hn
    obtain ⟨h, hh, hn⟩ := integers_placeholder g n hn
    exact hg.1.legible hh hn
  rw [embedded_of_not_text h, seen?_of_hasTemplate hb hg, revealed,
    read_revealed Json.Layout.blank_inline legible]
  rfl

theorem inert_embedded (h : ∀ t, placeholder g ≠ .string t) : Inert (embedded g) := by
  rw [embedded_of_not_text h]
  exact inert_revealed _

theorem standsFor_embedded (hb : layout.Blank) (hg : g.HasTemplate limits) :
    StandsFor limits layout g (Text.ofList ((embedded g).map straight)) := by
  by_cases text : ∃ t, placeholder g = .string t
  · obtain ⟨t, ht⟩ := text
    have characters := inlined_placeholder g
    rw [ht, inlined] at characters
    rw [characters] at ht
    have shallow : (placeholder g).depth ≤ Json.depthLimit := by
      rw [ht]
      exact Nat.zero_le _
    rw [StandsFor, (seen?_eq_some_iff hb).2 ⟨hg, shallow, (found_text ht).symm⟩]
  · have other : ∀ t, placeholder g ≠ .string t := not_exists.1 text
    rw [(inert_embedded other).straight]
    unfold StandsFor
    split
    next t seen =>
      obtain ⟨-, -, same⟩ := (seen?_eq_some_iff hb).1 seen
      exact absurd (exists_text_of_found same.symm) text
    next => exact ⟨embedded g, rfl, read_embedded hb hg other⟩

/-- No curly quote in the name. -/
def StraightName (f : Field) : Prop := ∀ c ∈ f.name.toList, isCurlyQuote c.toNat = false

instance : DecidablePred StraightName := fun f =>
  List.decidableBAll (fun c : Char => isCurlyQuote c.toNat = false) f.name.toList

theorem straighten_of_straight {s : String} (h : ∀ c ∈ s.toList, isCurlyQuote c.toNat = false) :
    straighten s = s := by
  have each : ∀ c ∈ s.toList, straight c = id c := by
    intro c hc
    rw [straight, h c hc]
    rfl
  rw [straighten, List.map_congr_left each, List.map_id, String.ofList_toList]

theorem straighten_inert {s : String} (h : Inert s.toList) : straighten s = s :=
  straighten_of_straight fun c hc => (h c hc).1

theorem depth_member {fields : List Field} (hg : g ∈ fields) :
    (placeholder g).depth ≤ Json.membersDepth (memberPlaceholders fields) := by
  induction fields with
  | nil => exact absurd hg List.not_mem_nil
  | cons f rest ih =>
    rw [memberPlaceholders, Json.membersDepth]
    rcases List.mem_cons.1 hg with rfl | hg
    · exact Nat.le_max_left _ _
    · exact le_trans (ih hg) (Nat.le_max_right _ _)

theorem composed_object {label : Label} {fields : List Field} (hb : layout.Blank)
    (distinct : (fields.map Field.name).Nodup) (hw : ∀ g ∈ fields, g.HasTemplate limits)
    (deep : (placeholder (.object label fields)).depth ≤ Json.depthLimit)
    (names : ∀ g ∈ fields, StraightName g) :
    Composed limits layout (found (.object label fields)) (.object label fields) := by
  have name : ∀ g ∈ fields, (foundMember g).1 = Text.ofString g.name :=
    fun g hg => congrArg Text.ofString (straighten_of_straight (names g hg))
  have keys : ((fields.map foundMember).map (·.1)).Nodup := by
    have same : (fields.map foundMember).map (·.1) = (fields.map Field.name).map Text.ofString := by
      rw [List.map_map, List.map_map]
      exact List.map_congr_left name
    rw [same]
    exact List.Nodup.map (fun _ _ => Text.ofString_injective) distinct
  refine ⟨fields.map foundMember, ?_, ?_⟩
  · rw [found_object, Json.putAll_eq keys, List.nil_append]
  · rw [List.forall₂_map_right_iff, List.forall₂_same]
    intro g hg
    have inner : (placeholder g).depth ≤ Json.depthLimit := by
      rw [placeholder, Json.depth] at deep
      exact le_trans (depth_member hg) (Nat.le_of_succ_le deep)
    have seen : seen? limits layout g = some (found g) :=
      (seen?_eq_some_iff hb).2 ⟨hw g hg, inner, rfl⟩
    exact ⟨name g hg, seen⟩

theorem straight_header (b : Bounds Nat) :
    straighten s!"<array of {b.low}–{b.high} elements, each element should be: " =
      s!"<array of {b.low}–{b.high} elements, each element should be: " := by
  have count : ∀ n : Nat, Inert (toString n).toList := by
    intro n
    have digits : (toString n).toList = integerText n := by
      rw [integerText_of_nonneg (Int.natCast_nonneg n), Int.toNat_natCast]
      exact Nat.toList_repr
    rw [digits]
    exact .number (numberText_integer n)
  have words : Inert "<array of ".toList ∧ Inert "–".toList ∧
      Inert " elements, each element should be: ".toList := by decide
  refine straighten_inert ?_
  simp only [String.toList_append]
  exact (((words.1.append (count _)).append words.2.1).append (count _)).append words.2.2

section Choice

variable {scalars : List Scalar}

theorem itemIntegers_scalars {n : Int} (h : n ∈ Json.itemIntegers (scalars.map Scalar.toJson)) :
    .int n ∈ scalars := by
  induction scalars with
  | nil => exact absurd h List.not_mem_nil
  | cons o scalars ih =>
    rw [List.map_cons, Json.itemIntegers] at h
    rcases List.mem_append.1 h with h | h
    · cases o with
      | int m => rw [List.mem_singleton.1 h]; exact List.mem_cons_self
      | real | text => exact absurd h List.not_mem_nil
    · exact List.mem_cons_of_mem _ (ih h)

theorem itemsDepth_scalars : Json.itemsDepth (scalars.map Scalar.toJson) = 0 := by
  induction scalars with
  | nil => rfl
  | cons o scalars ih =>
    rw [List.map_cons, Json.itemsDepth, ih]
    cases o <;> rfl

theorem rereadItems_scalars : Json.rereadItems CodePoint.straight (scalars.map Scalar.toJson) =
    scalars.map fun o => o.straight.toJson := by
  induction scalars with
  | nil => rfl
  | cons o scalars ih =>
    rw [List.map_cons, Json.rereadItems, ih, List.map_cons]
    congr 1
    cases o with
    | text s => exact congrArg Json.string (rereadText_ofString s)
    | int | real => rfl

end Choice

theorem composed_choice (limits : Limits) (layout : Json.Layout) {label : Label} {options : Options}
    (hw : (Field.choice label options).Writable) :
    Composed limits layout (found (.choice label options)) (.choice label options) := by
  have legible : ∀ n ∈ options.toJson.integers, Legible n := by
    intro n hn
    have own : n ∈ (Field.choice label options).integers :=
      Field.mem_integers.2 (itemIntegers_scalars hn)
    exact hw.legible (Field.mem_preorder_self _) own
  refine ⟨revealed .inline options.toJson, ?_, ?_⟩
  · rw [found_description (u := revealed .inline options.toJson) rfl rfl ⟨by decide, by decide⟩,
      (inert_revealed _).straight]
  · rw [revealed, read_revealed Json.Layout.blank_inline legible, Options.toJson, Json.depth,
      itemsDepth_scalars, Json.reread, rereadItems_scalars]
    exact Json.within_of_le (by decide) _

theorem composed_variant {label : Label} {alternatives : List Field} (hb : layout.Blank)
    (some_field : alternatives ≠ []) (objects : ∀ g ∈ alternatives, g.kind = .object)
    (hw : ∀ g ∈ alternatives, g.HasTemplate limits) :
    Composed limits layout (found (.variant label alternatives)) (.variant label alternatives) := by
  have no_text : ∀ g ∈ alternatives, ∀ t, placeholder g ≠ .string t := by
    intro g hg t
    have kind := objects g hg
    cases g with
    | object label fields => simp [placeholder]
    | _ => exact absurd kind nofun
  have inert : ∀ s ∈ alternatives.map embedded, Inert s :=
    List.forall_mem_map.2 fun g hg => inert_embedded (no_text g hg)
  have texts := joinLines_alternativeTexts fun g (_ : g ∈ alternatives) => inlined_placeholder g
  refine ⟨"\nOR\n".toList.intercalate (alternatives.map embedded), ?_, ?_⟩
  · have shape : placeholder (.variant label alternatives) =
        .string ("<choose one of the following structures>\n" ++
          joinLines "\nOR\n" (alternativeTexts alternatives) ++ "") :=
      congrArg Json.string (List.append_nil _).symm
    rw [found_description texts shape ⟨by decide, by decide⟩,
      Inert.straight_intercalate (by decide) inert]
    exact congrArg Json.string (List.append_nil _)
  · have apart : Search.split '\n' "OR\n".toList
        ("\nOR\n".toList.intercalate (alternatives.map embedded)) = alternatives.map embedded :=
      Search.split_intercalate (by simpa using some_field) fun s hs => (inert s hs).newline_notMem
    rw [apart, List.forall₂_map_right_iff, List.forall₂_same]
    exact fun g hg => read_embedded hb (hw g hg) (no_text g hg)

theorem composed_found (hf : f.WellFormed) (hw : f.HasTemplate limits) (hb : layout.Blank)
    (deep : (placeholder f).depth ≤ Json.depthLimit) (names : ∀ g ∈ f.preorder, StraightName g) :
    Composed limits layout (found f) f := by
  have below := Field.closed_hasTemplate limits f hw
  cases hf with
  | object label fields all distinct =>
    have straightNames : ∀ g ∈ fields, StraightName g := fun g hg =>
      names g (Field.mem_preorder_of_child hg (Field.mem_preorder_self g))
    exact composed_object hb distinct below deep straightNames
  | array label element b =>
    refine ⟨_, standsFor_embedded hb (below element (by simp [Field.children])), ?_⟩
    exact found_description (inlined_placeholder element) rfl ⟨straight_header b, by decide⟩
  | optional label inner =>
    refine ⟨_, standsFor_embedded hb (below inner (by simp [Field.children])), ?_⟩
    exact found_description (inlined_placeholder inner) rfl ⟨by decide, by decide⟩
  | choice label options => exact composed_choice limits layout hw.1
  | variant label alternatives some_field all objects =>
    exact composed_variant hb some_field objects below
  | _ => trivial

/-- The template of a schema can be read unless an integer is too long or fields are nested too
deeply, and it says of each part what the template of the part says on its own. -/
theorem template_composed (hf : Constructed f) (hb : layout.Blank)
    (names : ∀ g ∈ f.preorder, StraightName g) :
    ((seen? limits layout f).isSome ↔ f.Writable ∧ f.templateNesting ≤ limits.calls ∧
      (placeholder f).depth ≤ Json.depthLimit) ∧
      ∀ v, seen? limits layout f = some v → Composed limits layout v f := by
  constructor
  · rw [Option.isSome_iff_exists]
    simp [seen?_eq_some_iff hb, Field.HasTemplate, and_assoc]
  · intro v hv
    obtain ⟨hw, deep, rfl⟩ := (seen?_eq_some_iff hb).1 hv
    exact composed_found hf.wellFormed hw hb deep names

end Composition

/-- Parcels of books and pens. A name holds what separates alternatives, an option a curly quote. -/
def parcel : Field := .object ⟨"parcel", none, by decide, by decide⟩
  [.constant ⟨"from", none, by decide, by decide⟩ (.text "A\nOR\nB \\ Ω"),
    .array ⟨"contents", none, by decide, by decide⟩
      (.variant ⟨"content", none, by decide, by decide⟩
        [.object ⟨"book", none, by decide, by decide⟩
          [.choice ⟨"state", none, by decide, by decide⟩ (.texts ["“new”", "used"])],
        .object ⟨"pen", none, by decide, by decide⟩
          [.optional ⟨"ink", none, by decide, by decide⟩
            (.constant ⟨"ink", none, by decide, by decide⟩ (.int (-1)))]])
      ⟨0, 6, by decide⟩]

theorem parcel_composed : Constructed parcel ∧ (Json.Layout.indented [' ', ' ']).Blank ∧
    (∀ g ∈ parcel.preorder, StraightName g) ∧ ∃ v,
      seen? .standard (.indented [' ', ' ']) parcel = some v ∧
        Composed .standard (.indented [' ', ' ']) v parcel := by
  have built : Constructed parcel := Field.WellFormed.constructed (by decide)
  have blank : (Json.Layout.indented [' ', ' ']).Blank := Json.Layout.blank_spaces 2
  have names : ∀ g ∈ parcel.preorder, StraightName g := by decide
  have writable : parcel.Writable := by
    unfold Field.Writable
    decide
  obtain ⟨readable, composed⟩ := @template_composed .standard _ _ built blank names
  obtain ⟨v, seen⟩ := Option.isSome_iff_exists.1
    (readable.2 ⟨writable, by decide +kernel, by decide⟩)
  exact ⟨built, blank, names, v, seen, composed v seen⟩

def stock (pens : Int) : Field := .object ⟨"stock", none, by decide, by decide⟩
  [.constant ⟨"pens", none, by decide, by decide⟩ (.int pens)]

def boxes : Nat → Field
  | 0 => .object ⟨"box", none, by decide, by decide⟩ []
  | n + 1 => .object ⟨"box", none, by decide, by decide⟩ [boxes n]

theorem wellFormed_boxes (n : Nat) : (boxes n).WellFormed := by
  induction n with
  | zero => exact .object _ _ nofun List.nodup_nil
  | succ n ih => exact .object _ _ (List.forall_mem_singleton.2 ih) (List.nodup_singleton _)

theorem straightName_boxes (n : Nat) : ∀ g ∈ (boxes n).preorder, StraightName g := by
  induction n with
  | zero => decide
  | succ n ih =>
    have box : StraightName (boxes 0) := by decide
    rw [Field.preorder_eq, List.forall_mem_cons, boxes, Field.children, List.flatMap_singleton]
    exact ⟨box, ih⟩

/-- Templates that cannot be read: one is indented by quotes, one would hold an integer with too
many digits, and one would nest too many calls. -/
theorem templates_unseen :
    (Constructed (stock 1) ∧ (∀ g ∈ (stock 1).preorder, StraightName g) ∧
      seen? .standard (.indented ['"']) (stock 1) = none) ∧
    (Constructed (stock (10 ^ 4300)) ∧ (∀ g ∈ (stock (10 ^ 4300)).preorder, StraightName g) ∧
      seen? .standard (.indented [' ', ' ']) (stock (10 ^ 4300)) = none) ∧
    Constructed (boxes 500) ∧ (∀ g ∈ (boxes 500).preorder, StraightName g) ∧
      seen? .standard (.indented [' ', ' ']) (boxes 500) = none := by
  have built : ∀ pens, Constructed (stock pens) := fun pens =>
    Field.WellFormed.constructed <|
      .object _ _ (List.forall_mem_singleton.2 (.constant _ _)) (List.nodup_singleton _)
  have names : ∀ pens, ∀ g ∈ (stock pens).preorder, StraightName g := by
    intro pens
    have top : StraightName (stock 0) := by decide
    have below : StraightName (.constant ⟨"pens", none, by decide, by decide⟩ (.int 0)) := by decide
    exact List.forall_mem_cons.2 ⟨top, List.forall_mem_singleton.2 below⟩
  have written : ∀ pens, (stock pens).Writable → Legible pens := by
    intro pens short
    have constant := Field.closed_writable _ short (.constant _ (.int pens)) List.mem_cons_self
    exact constant _ (Field.mem_preorder_self _) pens List.mem_cons_self
  refine ⟨⟨built 1, names 1, ?_⟩, ⟨built _, names _, seen?_eq_none fun hf => ?_⟩,
    (wellFormed_boxes 500).constructed, straightName_boxes 500, seen?_eq_none fun hf => ?_⟩
  · decide +kernel
  · have short : Legible (10 ^ 4300) := written _ hf.1
    have digits := length_toDigits_ten_pow 4300
    rw [Legible, digits] at short
    exact absurd short (by decide)
  · exact absurd hf.2 (by decide +kernel)

end FieldSchema
