import FieldSchema.Gallery
import FieldSchema.Proofs.Schema.Arguments
import FieldSchema.Proofs.Validation.Report
import Mathlib.Data.List.Induction

/-! The outcome of an action in a scene. The schema is there exactly if the scene can be described,
and what it accepts is what can come of an action in this scene. -/
namespace FieldSchema.Gallery

open Validation

def texts (ss : List String) : Datum := .list (ss.map .text)

/-- What an action may depend on: the states that each category can change to, the places the avatar
may move to, and the items to be had. -/
structure Scene where
  categories : List (String × List String)
  distinct : (categories.map (·.1)).Nodup
  sublocations : List String
  items : List String

def entries (categories : List (String × List String)) : List (Datum × Datum) :=
  categories.map fun c => (.text c.1, texts c.2)

def Scene.schema (s : Scene) : Built :=
  actionOutcome (entries s.categories) (texts s.sublocations) (texts s.items)

section Arguments

variable {categories : List (String × List String)} {ss kept : List String} {s t : String}

theorem same_text : Datum.same (.text s) (.text t) = (s == t) := by
  rw [Datum.same]

theorem putEntry_new {category : String} {states : Datum}
    (new : category ∉ categories.map (·.1)) :
    putEntry (.text category) states (entries categories) =
      entries categories ++ [(.text category, states)] := by
  induction categories with
  | nil => rfl
  | cons c categories ih =>
    rw [List.map_cons, List.mem_cons, not_or] at new
    have other : Datum.same (.text c.1) (.text category) = false := by
      rw [same_text]
      exact beq_false_of_ne (Ne.symm new.1)
    have step : entries (c :: categories) = (.text c.1, texts c.2) :: entries categories := rfl
    rw [step, putEntry, other, if_neg Bool.false_ne_true, ih new.2, List.cons_append]

theorem mergeEntries_entries (distinct : (categories.map (·.1)).Nodup) :
    mergeEntries (entries categories) = entries categories := by
  induction categories using List.reverseRecOn with
  | nil => rfl
  | append_singleton before c ih =>
    rw [List.map_append, List.map_singleton, List.nodup_append] at distinct
    have new : c.1 ∉ before.map (·.1) := fun h => distinct.2.2 _ h _ (List.mem_singleton_self _) rfl
    have split : entries (before ++ [c]) = entries before ++ [(.text c.1, texts c.2)] :=
      List.map_append
    have kept := ih distinct.1
    rw [mergeEntries] at kept
    rw [split, mergeEntries, List.foldl_append, kept]
    exact putEntry_new new

theorem any_same_texts (kept : List String) (s : String) :
    (kept.map Datum.text).any (·.same (.text s)) = decide (s ∈ kept) := by
  rw [List.any_map, Bool.eq_iff_iff]
  simp [same_text]

theorem distinct_snoc (same : Datum.distinct (ss.map .text) = kept.map .text) :
    Datum.distinct ((ss ++ [s]).map .text) =
      (if s ∈ kept then kept else kept ++ [s]).map .text := by
  rw [Datum.distinct] at same ⊢
  rw [List.map_append, List.foldl_append, same, List.map_singleton, List.foldl_cons,
    any_same_texts, List.foldl_nil]
  split <;> simp_all

theorem distinct_texts (ss : List String) : ∃ kept : List String,
    Datum.distinct (ss.map .text) = kept.map .text ∧ kept.Nodup ∧ ∀ s, s ∈ kept ↔ s ∈ ss := by
  induction ss using List.reverseRecOn with
  | nil => exact ⟨[], rfl, List.nodup_nil, fun _ => Iff.rfl⟩
  | append_singleton ss s ih =>
    obtain ⟨kept, same, distinct, members⟩ := ih
    refine ⟨_, distinct_snoc same, ?_, fun t => ?_⟩
    · split
      next => exact distinct
      next new => simpa using distinct.concat new
    · split
      next known =>
        rw [members, List.mem_append, List.mem_singleton]
        exact (or_iff_left_of_imp fun same => same ▸ (members s).1 known).symm
      next => simp [members]

end Arguments

section Building

def label (name : String) (named : name ≠ "" := by decide) (clean : isClean name := by decide) :
    Label := ⟨name, none, named, clean⟩

def noChange : Field := .object (label "no_change")
  [.constant (label "category") (.text "none"), .constant (label "new_state") (.text "none")]

def change (category : String) (states : List String) : Built := do
  object ("change_" ++ category) [
    ← constant "category" (.text category),
    ← choice "new_state" [texts states]]

def IsChange (category : String) (states : List String) (f : Field) : Prop :=
  ∃ l, f = .object l
    [.constant (label "category") (.text category), .choice (label "new_state") (.texts states)]

variable {category : String} {states : List String}

theorem constant_built (name value : String) (named : name ≠ "" := by decide)
    (clean : isClean name := by decide) :
    constant name (.text value) = .ok (.constant (label name named clean) (.text value)) :=
  Construct.constant_ok (label name named clean) (.text value)

theorem spread_fields (fields : List Field) :
    Datum.spread (fields.map .field) = fields.map .field := by
  cases fields with
  | nil => rfl
  | cons f rest => cases rest <;> rfl

theorem object_built (name : String) {fields : List Field} (named : name ≠ "")
    (clean : isClean name) (distinct : (fields.map Field.name).Nodup) :
    object name fields = .ok (.object (label name named clean) fields) := by
  rw [← Construct.object_ok (label name named clean) distinct, object, Construct.object,
    Construct.object, spread_fields]
  rfl

theorem twoNames : ["category", "new_state"].Nodup := by decide

theorem noChange_built : object "no_change" [.constant (label "category") (.text "none"),
    .constant (label "new_state") (.text "none")] = .ok noChange :=
  object_built "no_change" (by decide) (by decide) twoNames

theorem distinctOptions_texts (some : states ≠ []) :
    DistinctOptions (states.map .text) ↔ states.Nodup := by
  constructor
  · rintro ⟨-, ⟨ns, same, -⟩ | ⟨xs, same, -⟩ | ⟨ss, same, distinct⟩⟩
    · cases states <;> cases ns <;> simp_all
    · cases states <;> cases xs <;> simp_all
    · rwa [List.map_injective_iff.2 (fun _ _ => Datum.text.inj) same]
  · intro distinct
    exact ⟨by simpa using some, .inr (.inr ⟨states, rfl, distinct⟩)⟩

theorem choice_built (name : String) (named : name ≠ "") (clean : isClean name)
    (some : states ≠ []) (distinct : states.Nodup) :
    choice name [texts states] = .ok (.choice (label name named clean) (.texts states)) :=
  Construct.choice_ok (label name named clean) (o := .texts states) ⟨some, distinct⟩

theorem checks_choice (name : String) (named : name ≠ "") (clean : isClean name)
    (some : states ≠ []) : Checks (choice name [texts states]) states.Nodup := by
  refine (Construct.checks_choice (.text name) .null _).congr ?_
  rw [← distinctOptions_texts some]
  exact (and_iff_right ⟨⟨name, rfl, named, clean⟩, .inl rfl⟩).symm

theorem changeName_ne (category : String) : "change_" ++ category ≠ "" := by simp

theorem isClean_changeName : isClean ("change_" ++ category) ↔ isClean category := by
  rw [isClean_append]
  exact and_iff_right (by decide)

theorem change_built (some : states ≠ []) (clean : isClean category) (distinct : states.Nodup) :
    ∃ f, change category states = .ok f ∧ IsChange category states f := by
  have cleanName := isClean_changeName.2 clean
  refine ⟨_, ?_, label _ (changeName_ne category) cleanName, rfl⟩
  rw [change, constant_built "category" category,
    choice_built "new_state" (by decide) (by decide) some distinct]
  exact object_built _ (changeName_ne category) cleanName twoNames

theorem checks_change (some : states ≠ []) :
    Checks (change category states) (isClean category ∧ states.Nodup) := by
  have options := checks_choice "new_state" (by decide) (by decide) some
  rw [change, constant_built "category" category]
  refine (options.bind (q := isClean category) fun f hf => ?_).congr and_comm
  have distinct := options.returns.1 ⟨f, hf⟩
  rw [choice_built "new_state" (by decide) (by decide) some distinct] at hf
  obtain rfl := Except.ok.inj hf
  refine (Construct.checks_object _ _ _).congr ⟨fun clean => ⟨⟨⟨_, rfl, ?_, ?_⟩, .inl rfl⟩, ?_⟩, ?_⟩
  · exact changeName_ne category
  · exact isClean_changeName.2 clean
  · exact ⟨[_, _], rfl, twoNames⟩
  · rintro ⟨⟨⟨name, same, -, clean⟩, -⟩, -⟩
    exact isClean_changeName.1 (Datum.text.inj same ▸ clean)

theorem isChange_of_change {f : Field} (some : states ≠ []) (h : change category states = .ok f) :
    IsChange category states f := by
  obtain ⟨clean, distinct⟩ := (checks_change some).returns.1 ⟨f, h⟩
  obtain ⟨g, built, shape⟩ := change_built some clean distinct
  obtain rfl := Except.ok.inj (h.symm.trans built)
  exact shape

/-- The scene can be described: where a category has states, its name is clean and no state is
listed twice. -/
def Describable (categories : List (String × List String)) : Prop :=
  ∀ c ∈ categories, c.2 ≠ [] → isClean c.1 ∧ c.2.Nodup

variable {categories : List (String × List String)}

theorem stateChanges_skip (category : String) :
    stateChanges (entries ((category, []) :: categories)) = stateChanges (entries categories) := rfl

theorem stateChanges_cons (some : states ≠ []) :
    stateChanges (entries ((category, states) :: categories)) = (do
      let f ← change category states
      return f :: (← stateChanges (entries categories))) := by
  have filled : isEmpty (texts states) = false := by
    rw [texts, isEmpty, List.isEmpty_map]
    exact List.isEmpty_eq_false_iff.2 some
  have step : entries ((category, states) :: categories) =
      (.text category, texts states) :: entries categories := rfl
  rw [step, stateChanges, if_neg (by simp [filled])]
  simp only [change, bind_assoc]
  rfl

theorem checks_stateChanges (categories : List (String × List String)) :
    Checks (stateChanges (entries categories)) (Describable categories) := by
  induction categories with
  | nil => exact .accept (List.forall_mem_nil _)
  | cons c categories ih =>
    obtain ⟨category, states⟩ := c
    rw [Describable, List.forall_mem_cons]
    by_cases some : states = []
    · subst some
      rw [stateChanges_skip]
      exact ih.congr (and_iff_right fun h => absurd rfl h)
    · rw [stateChanges_cons some]
      exact ((checks_change some).bind fun f _ => ih.map).congr
        (and_congr_left fun _ => forall_prop_of_true some)

theorem changes_of_stateChanges {fields : List Field}
    (h : stateChanges (entries categories) = .ok fields) :
    (∀ f ∈ fields, ∃ c ∈ categories, c.2 ≠ [] ∧ IsChange c.1 c.2 f) ∧
      ∀ c ∈ categories, c.2 ≠ [] → ∃ f ∈ fields, IsChange c.1 c.2 f := by
  induction categories generalizing fields with
  | nil =>
    obtain rfl := Except.ok.inj h
    exact ⟨List.forall_mem_nil _, List.forall_mem_nil _⟩
  | cons c categories ih =>
    obtain ⟨category, states⟩ := c
    by_cases some : states = []
    · subst some
      rw [stateChanges_skip] at h
      obtain ⟨made, used⟩ := ih h
      refine ⟨fun f hf => ?_, List.forall_mem_cons.2 ⟨fun he => absurd rfl he, used⟩⟩
      obtain ⟨c, hc, shape⟩ := made f hf
      exact ⟨c, List.mem_cons_of_mem _ hc, shape⟩
    · rw [stateChanges_cons some] at h
      obtain ⟨f, hf, h⟩ := Except.bind_eq_ok.1 h
      obtain ⟨rest, hr, h⟩ := Except.bind_eq_ok.1 h
      obtain rfl := Except.ok.inj h
      obtain ⟨made, used⟩ := ih hr
      have first := isChange_of_change some hf
      refine ⟨List.forall_mem_cons.2 ⟨⟨_, List.mem_cons_self, some, first⟩, fun g hg => ?_⟩,
        List.forall_mem_cons.2 ⟨fun _ => ⟨f, List.mem_cons_self, first⟩, fun c hc he => ?_⟩⟩
      · obtain ⟨c, hc, shape⟩ := made g hg
        exact ⟨c, List.mem_cons_of_mem _ hc, shape⟩
      · obtain ⟨g, hg, shape⟩ := used c hc he
        exact ⟨g, List.mem_cons_of_mem _ hg, shape⟩

variable {s : Scene} {places gains : List String} {changes : List Field}

def upTo (high : Nat) : Bounds Nat := ⟨0, high, Nat.zero_le high⟩

def outcomeMembers (changes : List Field) (places gains : List String) : List Field := [
  .boolean (label "success"),
  .string (label "narrative") ⟨20, 300, by decide⟩,
  .variant (label "state_changes") (noChange :: changes),
  .choice (label "new_sublocation") (.texts places),
  .array (label "items_gained") (.choice (label "item") (.texts gains)) (upTo 3),
  .boolean (label "ends_interaction")]

def outcome (changes : List Field) (places gains : List String) : Field :=
  .object (label "ActionOutcome") (outcomeMembers changes places gains)

def Scene.Yields (s : Scene) (item : String) : Prop := item ∈ s.items ∨ s.items = [] ∧ item = "none"

def Scene.Leads (s : Scene) (place : String) : Prop := place ∈ s.sublocations ∨ place = "none"

theorem kept_places (s : Scene) : ∃ places : List String,
    Datum.distinct (elements (texts s.sublocations) ++ [.text "none"]) = places.map .text ∧
      places.Nodup ∧ ∀ place, place ∈ places ↔ s.Leads place := by
  obtain ⟨places, same, distinct, members⟩ := distinct_texts (s.sublocations ++ ["none"])
  refine ⟨places, ?_, distinct, fun place => ?_⟩
  · rw [← same, List.map_append]
    rfl
  · rw [members, List.mem_append, List.mem_singleton, Scene.Leads]

def orNone : List String → List String
  | [] => ["none"]
  | items => items

theorem kept_items (s : Scene) : ∃ kept : List String,
    Datum.distinct (elements (texts s.items)) = kept.map .text ∧ orNone kept ≠ [] ∧
      (orNone kept).Nodup ∧ ∀ item, item ∈ orNone kept ↔ s.Yields item := by
  obtain ⟨kept, same, distinct, members⟩ := distinct_texts s.items
  refine ⟨kept, same, ?_⟩
  cases kept with
  | nil =>
    have none : s.items = [] := List.eq_nil_iff_forall_not_mem.2 fun item h =>
      List.not_mem_nil ((members item).2 h)
    exact ⟨nofun, List.nodup_singleton _, fun item => by simp [orNone, Scene.Yields, none]⟩
  | cons item kept =>
    have some : s.items ≠ [] := List.ne_nil_of_mem ((members item).1 List.mem_cons_self)
    exact ⟨nofun, distinct, fun item => by simp [orNone, Scene.Yields, some, members]⟩

theorem variant_built (name : String) {fields : List Field} (named : name ≠ "")
    (clean : isClean name) (some : fields ≠ []) (objects : ∀ f ∈ fields, f.kind = .object) :
    variant name fields = .ok (.variant (label name named clean) fields) := by
  rw [← Construct.variant_ok (label name named clean) some objects, variant, Construct.variant,
    Construct.variant, spread_fields]
  rfl

theorem outcome_built (changed : ∀ f ∈ changes, f.kind = .object) (somewhere : places ≠ [])
    (something : gains ≠ []) (distinctPlaces : places.Nodup) (distinctGains : gains.Nodup) : (do
      object "ActionOutcome" [
        ← boolean "success",
        ← string "narrative" 20 300,
        ← variant "state_changes" (noChange :: changes),
        ← choice "new_sublocation" [texts places],
        ← array "items_gained" (← choice "item" [texts gains]) 0 3,
        ← boolean "ends_interaction"] : Built) = .ok (outcome changes places gains) := by
  have success : boolean "success" = .ok (.boolean (label "success")) :=
    Construct.boolean_ok (label "success")
  have ends : boolean "ends_interaction" = .ok (.boolean (label "ends_interaction")) :=
    Construct.boolean_ok (label "ends_interaction")
  have narrative : string "narrative" 20 300 =
      .ok (.string (label "narrative") ⟨20, 300, by decide⟩) :=
    Construct.string_ok (label "narrative") ⟨20, 300, by decide⟩
  have gained : ∀ f, array "items_gained" f 0 3 =
      .ok (.array (label "items_gained") f (upTo 3)) := fun f =>
    Construct.array_ok (label "items_gained") f (upTo 3)
  rw [success, ends, narrative,
    variant_built "state_changes" (by decide) (by decide) (List.cons_ne_nil _ _)
      (List.forall_mem_cons.2 ⟨rfl, changed⟩),
    choice_built "new_sublocation" (by decide) (by decide) somewhere distinctPlaces,
    choice_built "item" (by decide) (by decide) something distinctGains]
  simp only [bind, Except.bind, gained]
  have six : ["success", "narrative", "state_changes", "new_sublocation", "items_gained",
    "ends_interaction"].Nodup := by decide
  exact object_built "ActionOutcome" (by decide) (by decide) six

theorem schema_of_error {e : SchemaError} (h : stateChanges (entries s.categories) = .error e) :
    s.schema = .error e := by
  rw [Scene.schema, actionOutcome, mergeEntries_entries s.distinct, h,
    constant_built "category" "none", constant_built "new_state" "none"]
  simp only [bind, Except.bind, noChange_built]

theorem schema_of_changes (h : stateChanges (entries s.categories) = .ok changes) :
    ∃ places gains, s.schema = .ok (outcome changes places gains) ∧
      (∀ place, place ∈ places ↔ s.Leads place) ∧ ∀ item, item ∈ gains ↔ s.Yields item := by
  obtain ⟨places, samePlaces, distinctPlaces, leads⟩ := kept_places s
  obtain ⟨kept, sameItems, something, distinctItems, yields⟩ := kept_items s
  refine ⟨places, orNone kept, ?_, leads, yields⟩
  have somewhere : places ≠ [] := List.ne_nil_of_mem ((leads "none").2 (.inr rfl))
  have changed : ∀ f ∈ changes, f.kind = .object := by
    intro f hf
    obtain ⟨c, -, -, l, rfl⟩ := (changes_of_stateChanges h).1 f hf
    rfl
  rw [← outcome_built changed somewhere something distinctPlaces distinctItems, Scene.schema,
    actionOutcome, mergeEntries_entries s.distinct, h, constant_built "category" "none",
    constant_built "new_state" "none", samePlaces, sameItems]
  simp only [bind, Except.bind, noChange_built]
  cases kept <;> rfl

end Building

section Accepting

variable {v : Json} {l : Label} {members : List (Text × Json)}

def changeMembers (category state : Json) : List (Text × Json) :=
  [("category", category), ("new_state", state)]

theorem conforms_pair {f g : Field} (keys : (members.map (·.1)).Nodup)
    (first : f.name = "category" ∧ f.isOptional = false)
    (second : g.name = "new_state" ∧ g.isOptional = false) :
    Conforms (.object members) (.object l [f, g]) ↔ ∃ category state, Conforms category f ∧
      Conforms state g ∧ members.Perm (changeMembers category state) := by
  have names : ([f, g].map (Text.ofString ·.name)).Nodup := by
    rw [List.map_cons, List.map_singleton, first.1, second.1]
    decide
  rw [conforms_object_iff_perm (by simp [first.2, second.2]) names keys]
  simp [List.forall₂_cons_left_iff, first.1, second.1, changeMembers, and_assoc]

theorem conforms_noChange (keys : (members.map (·.1)).Nodup) :
    Conforms (.object members) noChange ↔
      members.Perm (changeMembers (.string "none") (.string "none")) := by
  rw [noChange, conforms_pair keys ⟨rfl, rfl⟩ ⟨rfl, rfl⟩]
  simp [conforms_textConstant_iff]

theorem conforms_change {category : String} {states : List String} {f : Field}
    (shape : IsChange category states f) (keys : (members.map (·.1)).Nodup) :
    Conforms (.object members) f ↔ ∃ state ∈ states,
      members.Perm (changeMembers (.string category) (.string state)) := by
  obtain ⟨l, rfl⟩ := shape
  rw [conforms_pair keys ⟨rfl, rfl⟩ ⟨rfl, rfl⟩]
  simp only [conforms_textConstant_iff, conforms_textChoice_iff]
  constructor
  · rintro ⟨_, _, rfl, ⟨state, hs, rfl⟩, order⟩
    exact ⟨state, hs, order⟩
  · rintro ⟨state, hs, order⟩
    exact ⟨_, _, rfl, ⟨state, hs, rfl⟩, order⟩

variable {s : Scene} {changes : List Field} {places gains : List String}

/-- What a category of a scene can change to. Nothing may change in any scene. -/
inductive Scene.Changes (s : Scene) : String → String → Prop where
  | none : s.Changes "none" "none"
  | listed {category state : String} {states : List String} : (category, states) ∈ s.categories →
    state ∈ states → s.Changes category state

theorem conforms_changes (h : stateChanges (entries s.categories) = .ok changes)
    (keys : v.KeysDistinct) : Conforms v (.variant l (noChange :: changes)) ↔
      ∃ change category state, v = .object change ∧ s.Changes category state ∧
        change.Perm (changeMembers (.string category) (.string state)) := by
  obtain ⟨made, used⟩ := changes_of_stateChanges h
  constructor
  · intro conforms
    cases keys with
    | object distinct =>
      rw [conforms_variant_iff, List.exists_mem_cons_iff,
        conforms_noChange distinct] at conforms
      rcases conforms with order | ⟨f, hf, conforms⟩
      · exact ⟨_, _, _, rfl, .none, order⟩
      · obtain ⟨c, hc, -, shape⟩ := made f hf
        obtain ⟨state, hs, order⟩ := (conforms_change shape distinct).1 conforms
        exact ⟨_, _, state, rfl, .listed hc hs, order⟩
    | _ => exact absurd conforms nofun
  · rintro ⟨members, category, state, rfl, change, order⟩
    cases keys with
    | object distinct =>
      rw [conforms_variant_iff, List.exists_mem_cons_iff, conforms_noChange distinct]
      cases change with
      | none => exact .inl order
      | listed hc hs =>
        obtain ⟨f, hf, shape⟩ := used _ hc (List.ne_nil_of_mem hs)
        exact .inr ⟨f, hf, (conforms_change shape distinct).2 ⟨state, hs, order⟩⟩

def tellingMembers (success narrative change place gained ends : Json) : List (Text × Json) := [
  ("success", success), ("narrative", narrative), ("state_changes", change),
  ("new_sublocation", place), ("items_gained", gained), ("ends_interaction", ends)]

theorem change_mem_tellingMembers {success narrative change place gained ends : Json} :
    (Text.ofString "state_changes", change) ∈
      tellingMembers success narrative change place gained ends := by
  simp [tellingMembers]

theorem conforms_members (keys : (members.map (·.1)).Nodup) :
    Conforms (.object members) (outcome changes places gains) ↔
      ∃ success narrative change place gained ends,
        members.Perm (tellingMembers success narrative change place gained ends) ∧
        List.Forall₂ (fun f v => Conforms v f) (outcomeMembers changes places gains)
          [success, narrative, change, place, gained, ends] := by
  have required : ∀ f ∈ outcomeMembers changes places gains, f.isOptional = false := by
    simp [outcomeMembers, Field.isOptional]
  have names : ((outcomeMembers changes places gains).map (Text.ofString ·.name)).Nodup := by
    change (["success", "narrative", "state_changes", "new_sublocation", "items_gained",
      "ends_interaction"].map Text.ofString).Nodup
    decide
  rw [outcome, conforms_object_iff_perm required names keys]
  constructor
  · rintro ⟨values, each, order⟩
    -- There are as many values as there are fields, so the list can be taken apart.
    have six := each
    obtain _ | ⟨-, _ | ⟨-, _ | ⟨-, _ | ⟨-, _ | ⟨-, _ | ⟨-, _ | _⟩⟩⟩⟩⟩⟩ := six
    exact ⟨_, _, _, _, _, _, order, each⟩
  · rintro ⟨success, narrative, change, place, gained, ends, order, each⟩
    exact ⟨_, each, order⟩

/-- The values that tell of the outcome of an action in a scene. -/
inductive Scene.Tells (s : Scene) : Json → Prop where
  | outcome {members change : List (Text × Json)} {success ends : Bool} {narrative : Text}
    {category state place : String} {gained : List Json} :
    members.Perm (tellingMembers (.bool success) (.string narrative) (.object change)
      (.string place) (.array gained) (.bool ends)) →
    20 ≤ narrative.length → narrative.length ≤ 300 →
    s.Changes category state →
    change.Perm (changeMembers (.string category) (.string state)) →
    s.Leads place →
    gained.length ≤ 3 → (∀ v ∈ gained, ∃ item, s.Yields item ∧ v = .string item) →
    s.Tells (.object members)

theorem conforms_outcomeMembers (h : stateChanges (entries s.categories) = .ok changes)
    (leads : ∀ place, place ∈ places ↔ s.Leads place)
    (yields : ∀ item, item ∈ gains ↔ s.Yields item)
    {success narrative change place gained ends : Json} (keys : change.KeysDistinct) :
    List.Forall₂ (fun f v => Conforms v f) (outcomeMembers changes places gains)
        [success, narrative, change, place, gained, ends] ↔
      (∃ b, success = .bool b) ∧
      (∃ t, narrative = .string t ∧ 20 ≤ t.length ∧ t.length ≤ 300) ∧
      (∃ members category state, change = .object members ∧ s.Changes category state ∧
        members.Perm (changeMembers (.string category) (.string state))) ∧
      (∃ name, s.Leads name ∧ place = .string name) ∧
      (∃ items, gained = .array items ∧ items.length ≤ 3 ∧
        ∀ v ∈ items, ∃ item, s.Yields item ∧ v = .string item) ∧
      ∃ b, ends = .bool b := by
  simp only [outcomeMembers, List.forall₂_cons, List.forall₂_nil_left_iff, conforms_boolean_iff,
    conforms_string_form, conforms_changes h keys, conforms_textChoice_iff, conforms_textItems_iff,
    leads, yields, upTo, Nat.zero_le, true_and, and_true]

theorem conforms_outcome (h : stateChanges (entries s.categories) = .ok changes)
    (leads : ∀ place, place ∈ places ↔ s.Leads place)
    (yields : ∀ item, item ∈ gains ↔ s.Yields item) (keys : v.KeysDistinct) :
    Conforms v (outcome changes places gains) ↔ s.Tells v := by
  constructor
  · intro conforms
    cases keys with
    | object distinct below =>
      obtain ⟨success, narrative, change, place, gained, ends, order, each⟩ :=
        (conforms_members distinct).1 conforms
      have changeKeys := below _ (order.mem_iff.2 change_mem_tellingMembers)
      obtain ⟨⟨success, rfl⟩, ⟨narrative, rfl, short, long⟩,
        ⟨change, category, state, rfl, changed, named⟩, ⟨place, led, rfl⟩,
        ⟨gained, rfl, few, yielded⟩, ⟨ends, rfl⟩⟩ :=
        (conforms_outcomeMembers h leads yields changeKeys).1 each
      exact .outcome order short long changed named led few yielded
    | _ => exact absurd conforms nofun
  · rintro ⟨order, short, long, changed, named, led, few, yielded⟩
    cases keys with
    | object distinct below =>
      have changeKeys := below _ (order.mem_iff.2 change_mem_tellingMembers)
      refine (conforms_members distinct).2 ⟨_, _, _, _, _, _, order,
        (conforms_outcomeMembers h leads yields changeKeys).2 ?_⟩
      exact ⟨⟨_, rfl⟩, ⟨_, rfl, short, long⟩, ⟨_, _, _, rfl, changed, named⟩, ⟨_, led, rfl⟩,
        ⟨_, rfl, few, yielded⟩, ⟨_, rfl⟩⟩

theorem freeOfDoubles_outcome (h : stateChanges (entries s.categories) = .ok changes) :
    (outcome changes places gains).FreeOfDoubles := by
  have pair : ∀ {l f g}, f.FreeOfDoubles → g.FreeOfDoubles →
      (Field.object l [f, g]).FreeOfDoubles := fun hf hg =>
    .of_children id (List.forall_mem_cons.2 ⟨hf, List.forall_mem_singleton.2 hg⟩)
  have changed : ∀ f ∈ noChange :: changes, f.FreeOfDoubles := by
    refine List.forall_mem_cons.2 ⟨pair (.leaf id rfl) (.leaf id rfl), fun f hf => ?_⟩
    obtain ⟨c, -, -, l, rfl⟩ := (changes_of_stateChanges h).1 f hf
    exact pair (.leaf id rfl) (.leaf id rfl)
  have gained : ∀ {l l' b}, (Field.array l (.choice l' (.texts gains)) b).FreeOfDoubles :=
    .of_children id (List.forall_mem_singleton.2 (.leaf id rfl))
  refine .of_children id ?_
  simp only [outcome, Field.children, outcomeMembers, List.forall_mem_cons]
  exact ⟨.leaf id rfl, .leaf id rfl, .of_children id changed, .leaf id rfl, gained, .leaf id rfl,
    List.forall_mem_nil _⟩

/-- A scene has a schema exactly if it can be described; otherwise a check fails. And with a schema,
the documents that are accepted are those that tell of an outcome in this scene. -/
theorem schema_exact (s : Scene) :
    ((∃ f, s.schema = .ok f) ↔ Describable s.categories) ∧
    s.schema ≠ .error .integerTooLarge ∧
    ∀ f text, s.schema = .ok f →
      ((validate (.field f) text).findings = .ok [] ↔
        ∃ v, Json.read (text.getD []) = .ok v ∧ s.Tells v) := by
  have checks := checks_stateChanges s.categories
  cases h : stateChanges (entries s.categories) with
  | error e =>
    rw [schema_of_error h]
    have refused : ¬ Describable s.categories := by
      rw [← checks.returns, h]
      exact nofun
    refine ⟨iff_of_false nofun refused, fun he => checks.refuses (h.trans ?_), nofun⟩
    rw [Except.error.inj he]
  | ok changes =>
    obtain ⟨places, gains, built, leads, yields⟩ := schema_of_changes h
    rw [built]
    refine ⟨iff_of_true ⟨_, rfl⟩ (checks.returns.1 ⟨_, h⟩), nofun, fun f text hf => ?_⟩
    obtain rfl := Except.ok.inj hf
    rw [(validate_accepts_iff _ text).1]
    refine exists_congr fun v => and_congr_right fun hv => ?_
    rw [conforms_outcome h leads yields (Json.keysDistinct_of_read hv)]
    exact and_iff_left (not_overflows_of_freeOfDoubles (freeOfDoubles_outcome h))

/-- A category may be called `none`, and one may have no states; no state is listed twice. -/
example : (Scene.schema ⟨[("none", ["open"]), ("door", [])], by decide, ["none"], []⟩).isOk ∧
    ¬ (Scene.schema ⟨[("door", ["open", "open"])], by decide, [], []⟩).isOk := by
  decide +kernel

end Accepting

end FieldSchema.Gallery
