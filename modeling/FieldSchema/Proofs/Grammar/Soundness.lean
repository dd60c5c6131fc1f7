import FieldSchema.Proofs.Grammar.Compiled
import FieldSchema.Proofs.Grammar.Refusal
import FieldSchema.Proofs.Json.Reading
import FieldSchema.Proofs.Number.Layout
import FieldSchema.Proofs.Validation.Document

/-! What a grammar derives can be read and is accepted. A derived text spells a value, and the value
conforms to the field once the numbers with a point lie between their bounds. -/
namespace FieldSchema.Grammar

open Json (Spells Entry keyText commaSeparated)
open Validation (Conforms Overflows matches_toJson validate)

section Scalars

theorem spells_scalar {v : Scalar} (hl : v.Spellable) : Spells (scalarText v) v.toJson := by
  cases v with
  | int n =>
    rw [scalarText, Scalar.toJson, Json.toList_text_int]
    exact Json.spells_int hl
  | real x =>
    rw [scalarText, Scalar.toJson, Json.toList_text_real]
    exact Json.spells_real fun rest hr => x.scan?_text hr
  | text s =>
    rw [scalarText, Scalar.toJson, Json.toList_text_string, Json.Escape.string,
      String.toList_ofList]
    exact Json.spells_string s.toList

theorem spells_span {b : Bounds Nat} {s : List Char} (h : Span b s) :
    Spells ('"' :: s ++ ['"']) (.string (.ofList s)) := by
  have spelled := Json.spells_string s
  rw [flatMap_plain h.2.2] at spelled
  exact spelled

theorem conforms_span {label : Label} {b : Bounds Nat} {s : List Char} (h : Span b s) :
    Conforms (.string (.ofList s)) (.string label b) := by
  have length : (Text.ofList s).length = s.length := by simp [Text.ofList]
  obtain ⟨low, high, -⟩ := h
  exact .string (by omega) (by omega)

theorem spells_filled {b : Bounds Nat} {s : List Char} (h : Span b s) (p : Pattern) :
    Spells ('"' :: (Json.Escape.string p.before).toList ++ s ++
        (Json.Escape.string p.after).toList ++ ['"'])
      (.string (Text.ofString p.before ++ .ofList s ++ Text.ofString p.after)) := by
  have spelled := Json.spells_string (p.before.toList ++ s ++ p.after.toList)
  have value : Text.ofList (p.before.toList ++ s ++ p.after.toList) =
      Text.ofString p.before ++ Text.ofList s ++ Text.ofString p.after := by
    simp [Text.ofList, Text.ofString]
  rw [List.flatMap_append, List.flatMap_append, flatMap_plain h.2.2, value] at spelled
  simpa [Json.Escape.string] using spelled

theorem conforms_filled {label : Label} {b : Bounds Nat} {s : List Char} (h : Span b s)
    (p : Pattern) : Conforms (.string (Text.ofString p.before ++ .ofList s ++
      Text.ofString p.after)) (.template label p b) := by
  have length : (Text.ofList s).length = s.length := by simp [Text.ofList]
  obtain ⟨low, high, -⟩ := h
  exact .template (by omega) (by omega)

theorem spells_fixedPoint (d : FixedPoint) : Spells d.text (.real d.literal.toBinary64) :=
  Json.spells_real fun _ hr => ⟨d.literal, d.scan?_text hr, rfl, rfl⟩

end Scalars

/-- A text of a number that lies between the bounds, once it is read. -/
def InBounds (b : Bounds Finite64) (u : List Char) : Prop :=
  ∃ x : Finite64, Json.read u = .ok (.real x) ∧ b.low ≤ x ∧ x ≤ b.high

theorem conforms_fixedPoint {d : FixedPoint} {label : Label} {b : Bounds Finite64}
    (h : InBounds b d.text) : Conforms (.real d.literal.toBinary64) (.real label b) := by
  obtain ⟨x, read, low, high⟩ := h
  have flat : (Json.real d.literal.toBinary64).depth = 0 := rfl
  rw [(spells_fixedPoint d).read, flat, Json.within_of_le (Nat.zero_le _)] at read
  rw [Json.real.inj (Except.ok.inj read)]
  exact .real low high

section Objects

variable {conforms : Json → Field → Prop} {fields : List Field} {entries : List Entry}

/-- The written members of an object, with values that conform to its fields. -/
structure Members (conforms : Json → Field → Prop) (fields : List Field) (entries : List Entry) :
    Prop where
  order : (entries.map (·.name)).Sublist (fields.map Field.name)
  required : ∀ f ∈ fields, f.isOptional = false → f.name ∈ entries.map (·.name)
  spells : ∀ m ∈ entries, Spells m.text m.value
  values : ∀ m ∈ entries, ∃ f ∈ fields, f.name = m.name ∧ conforms m.value f.memberField

namespace Members

theorem nil : Members conforms [] [] :=
  ⟨List.nil_sublist _, by simp, by simp, by simp⟩

theorem cons {f : Field} {w : List Char} {v : Json} (h : Members conforms fields entries)
    (hs : Spells w v) (hv : conforms v f.memberField) :
    Members conforms (f :: fields) (⟨f.name, w, v⟩ :: entries) := by
  refine ⟨h.order.cons_cons f.name, ?_, List.forall_mem_cons.2 ⟨hs, h.spells⟩, ?_⟩
  · refine List.forall_mem_cons.2 ⟨fun _ => by simp, fun g hg ho => ?_⟩
    exact List.mem_cons_of_mem _ (h.required g hg ho)
  · refine List.forall_mem_cons.2 ⟨⟨f, by simp, rfl, hv⟩, fun m hm => ?_⟩
    obtain ⟨g, hg, same⟩ := h.values m hm
    exact ⟨g, List.mem_cons_of_mem _ hg, same⟩

theorem skip {f : Field} (h : Members conforms fields entries) (ho : f.isOptional) :
    Members conforms (f :: fields) entries := by
  refine ⟨h.order.cons f.name, ?_, h.spells, fun m hm => ?_⟩
  · refine List.forall_mem_cons.2 ⟨fun hn => ?_, h.required⟩
    rw [ho] at hn
    exact absurd hn nofun
  · obtain ⟨g, hg, same⟩ := h.values m hm
    exact ⟨g, List.mem_cons_of_mem _ hg, same⟩

theorem keys_nodup (h : Members conforms fields entries) (hn : (fields.map Field.name).Nodup) :
    (entries.map (·.key)).Nodup := by
  have keys : entries.map (·.key) = (entries.map (·.name)).map Text.ofString := by
    rw [List.map_map]
    rfl
  rw [keys]
  exact (hn.sublist h.order).map fun _ _ => Text.ofString_injective

theorem lookup (h : Members conforms fields entries) (hn : (fields.map Field.name).Nodup)
    {f : Field} (hf : f ∈ fields) {v : Json}
    (hv : (entries.map fun m => (m.key, m.value)).lookup (Text.ofString f.name) = some v) :
    conforms v f.memberField := by
  obtain ⟨before, after, split, -⟩ := List.lookup_eq_some_iff.1 hv
  have member : (Text.ofString f.name, v) ∈ entries.map fun m => (m.key, m.value) := by
    simp [split]
  obtain ⟨m, hm, hkey⟩ := List.mem_map.1 member
  obtain ⟨key, rfl⟩ := Prod.mk.inj hkey
  obtain ⟨g, hg, name, value⟩ := h.values m hm
  have same : f = g := List.inj_on_of_nodup_map hn hf hg
    ((Text.ofString_injective key).symm.trans name.symm)
  rw [same]
  exact value

theorem conforms_object (h : Members Conforms fields entries)
    (hn : (fields.map Field.name).Nodup) {label : Label} :
    Conforms (.object (entries.map fun m => (m.key, m.value))) (.object label fields) := by
  refine .object (fun f hf ho => ?_) (fun f hf v hv => h.lookup hn hf hv) fun m hm => ?_
  · obtain ⟨m, hm, name⟩ := List.mem_map.1 (h.required f hf ho)
    rw [List.lookup_isSome_iff]
    exact ⟨_, List.mem_map_of_mem hm, by simp [Entry.key, name]⟩
  · obtain ⟨e, he, rfl⟩ := List.mem_map.1 hm
    obtain ⟨g, hg, name, -⟩ := h.values e he
    exact ⟨g, hg, by rw [name]; rfl⟩

theorem mono {conforms' : Json → Field → Prop} (h : Members conforms fields entries)
    (more : ∀ v f, conforms v f → conforms' v f) : Members conforms' fields entries := by
  refine ⟨h.order, h.required, h.spells, fun m hm => ?_⟩
  obtain ⟨f, hf, name, value⟩ := h.values m hm
  exact ⟨f, hf, name, more _ _ value⟩

end Members
end Objects

section Language

variable {real : Bounds Finite64 → List Char → Prop} {fine : Prop}

/-- What `real` allows for a field of numbers lies between its bounds. -/
def Bounded (real : Bounds Finite64 → List Char → Prop) (f : Field) : Prop :=
  ∀ label b, f = .real label b → ∀ u, real b u → InBounds b u

mutual

/-- A text of a field spells a value. If the numbers in it are fine, the value conforms. -/
theorem language_spells (f : Field) (hf : f.WellFormed) (hl : f.Spellable)
    (hr : fine → ∀ g ∈ f.preorder, Bounded real g) {w : List Char} (h : Language real f w) :
    ∃ v, Spells w v ∧ (fine → Conforms v f) := by
  have below : ∀ g ∈ f.children,
      g.WellFormed ∧ g.Spellable ∧ (fine → ∀ k ∈ g.preorder, Bounded real k) := fun g hg =>
    ⟨Field.closed_wellFormed f hf g hg, Field.closed_spellable f hl g hg,
      fun hx => Field.closed_preorder _ f (hr hx) g hg⟩
  cases f with
  | integer label b =>
    obtain ⟨n, low, high, rfl⟩ := h
    have hlow : Legible b.low := hl.own (.int b.low) (by simp [Field.scalars])
    have hhigh : Legible b.high := hl.own (.int b.high) (by simp [Field.scalars])
    exact ⟨.int n, Json.spells_int (hlow.between hhigh low high), fun _ => .integer low high⟩
  | real label b =>
    obtain ⟨d, -, rfl, allowed⟩ := h
    refine ⟨_, spells_fixedPoint d, fun hx => conforms_fixedPoint ?_⟩
    exact hr hx _ (Field.mem_preorder_self _) label b rfl _ allowed
  | string label b =>
    obtain ⟨s, span, rfl⟩ := h
    exact ⟨_, spells_span span, fun _ => conforms_span span⟩
  | boolean label =>
    rcases h with rfl | rfl
    · exact ⟨.bool true, Json.spells_bool true, fun _ => .boolean⟩
    · exact ⟨.bool false, Json.spells_bool false, fun _ => .boolean⟩
  | constant label value =>
    obtain rfl := h
    have spelled := spells_scalar (hl.own value (by simp [Field.scalars]))
    exact ⟨value.toJson, spelled, fun _ => .constant (matches_toJson value)⟩
  | choice label options =>
    obtain ⟨value, hm, rfl⟩ := h
    exact ⟨value.toJson, spells_scalar (hl.own value hm),
      fun _ => .choice hm (matches_toJson value)⟩
  | template label p b =>
    obtain ⟨s, span, rfl⟩ := h
    exact ⟨_, spells_filled span p, fun _ => conforms_filled span p⟩
  | object label fields =>
    obtain ⟨us, hus, rfl⟩ := h
    have distinct : (fields.map Field.name).Nodup := by
      cases hf
      assumption
    obtain ⟨entries, rfl, members⟩ := entries_spell fields below hus
    refine ⟨_, Json.spells_object members.spells (members.keys_nodup distinct), fun hx => ?_⟩
    exact (members.mono fun _ _ h => h hx).conforms_object distinct
  | variant label alternatives =>
    obtain ⟨g, hg, v, spelled, conforms⟩ := any_spells alternatives below h
    refine ⟨v, spelled, fun hx => ?_⟩
    have object : g.kind = .object := by
      cases hf with
      | variant _ _ _ _ objects => exact objects g hg
    have value := conforms hx
    cases g with
    | object =>
      cases value with
      | object required present known => exact .variant hg (.object required present known)
    | _ => exact absurd object nofun
  | array label element b =>
    obtain ⟨ws, low, high, each, rfl⟩ := h
    obtain ⟨hef, hel, her⟩ := below element (by simp [Field.children])
    have items : ∃ vs, List.Forall₂ Spells ws vs ∧ (fine → ∀ v ∈ vs, Conforms v element) := by
      clear low high
      induction ws with
      | nil => exact ⟨[], .nil, by simp⟩
      | cons u ws ih =>
        obtain ⟨hu, hws⟩ := List.forall_mem_cons.1 each
        obtain ⟨v, spelled, conforms⟩ := language_spells element hef hel her hu
        obtain ⟨vs, more, all⟩ := ih hws
        exact ⟨v :: vs, .cons spelled more,
          fun hx => List.forall_mem_cons.2 ⟨conforms hx, all hx⟩⟩
    obtain ⟨vs, spelled, all⟩ := items
    have length := spelled.length_eq
    exact ⟨_, Json.spells_array spelled, fun hx => .array (by omega) (by omega) (all hx)⟩
  | optional label inner =>
    obtain ⟨hif, hil, hir⟩ := below inner (by simp [Field.children])
    rcases h with h | rfl
    · obtain ⟨v, spelled, conforms⟩ := language_spells inner hif hil hir h
      exact ⟨v, spelled, fun hx => .optional (conforms hx)⟩
    · exact ⟨.null, Json.spells_null, fun _ => .null⟩

theorem entries_spell (fields : List Field) (hf : ∀ f ∈ fields,
      f.WellFormed ∧ f.Spellable ∧ (fine → ∀ g ∈ f.preorder, Bounded real g))
    {us : List (List Char)} (h : Entries real fields us) :
    ∃ entries, us = entries.map Entry.written ∧
      Members (fun v f => fine → Conforms v f) fields entries := by
  cases fields with
  | nil => exact ⟨[], h, .nil⟩
  | cons f rest =>
    obtain ⟨⟨hwf, hl, hr⟩, hrest⟩ := List.forall_mem_cons.1 hf
    rcases entries_cons.1 h with ⟨w, vs, rfl, hw, hvs⟩ | ⟨ho, hus⟩
    · have value : ∃ v, Spells w v ∧ (fine → Conforms v f.memberField) := by
        cases f with
        | optional label inner =>
          have child : inner ∈ (Field.optional label inner).children := by simp [Field.children]
          exact language_spells inner (Field.closed_wellFormed _ hwf _ child)
            (Field.closed_spellable _ hl _ child)
            (fun hx => Field.closed_preorder _ _ (hr hx) _ child) hw
        | _ => exact language_spells _ hwf hl hr hw
      obtain ⟨v, spelled, conforms⟩ := value
      obtain ⟨entries, rfl, members⟩ := entries_spell rest hrest hvs
      exact ⟨⟨f.name, w, v⟩ :: entries, rfl, members.cons spelled conforms⟩
    · obtain ⟨entries, hentries, members⟩ := entries_spell rest hrest hus
      exact ⟨entries, hentries, members.skip ho⟩

theorem any_spells (fields : List Field) (hf : ∀ f ∈ fields,
      f.WellFormed ∧ f.Spellable ∧ (fine → ∀ g ∈ f.preorder, Bounded real g))
    {w : List Char} (h : AnyLanguage real fields w) :
    ∃ f ∈ fields, ∃ v, Spells w v ∧ (fine → Conforms v f) := by
  cases fields with
  | nil => exact absurd h not_false
  | cons f rest =>
    obtain ⟨⟨hwf, hl, hr⟩, hrest⟩ := List.forall_mem_cons.1 hf
    rcases h with h | h
    · exact ⟨f, by simp, language_spells f hwf hl hr h⟩
    · obtain ⟨g, hg, spelled⟩ := any_spells rest hrest h
      exact ⟨g, List.mem_cons_of_mem _ hg, spelled⟩

end

end Language

section Documents

variable {f : Field} {g : Compiled} {t : List Char}

/-- Under the name of a rule for two bounds of the schema, only numbers between these are produced.
-/
def numbersInBounds (f : Field) (name : String) (u : List Char) : Prop :=
  ∀ label b, .real label b ∈ f.preorder → name = realName b → InBounds b u

/-- A derived text spells a value, whatever numbers with a point are in it. -/
theorem spells_of_derivable (hf : f.WellFormed) (hg : f.grammar = .ok g)
    (h : Derivable g.text (fun _ _ => True) t) : ∃ v, Spells t v := by
  have language := (derivable_free_iff hf hg).1 h
  obtain ⟨v, spelled, -⟩ :=
    language_spells f hf (spellable_of_grammar hg) (False.elim ·) language
  exact ⟨v, spelled⟩

theorem derivable_inBounds_iff (hf : f.WellFormed) (hg : f.grammar = .ok g) :
    Derivable g.text (numbersInBounds f) t ↔
      Language (fun b u => ∀ label, .real label b ∈ f.preorder → InBounds b u) f t := by
  rw [← derivable_iff _ hf hg]
  have same : numbersInBounds f =
      admitsReal fun b u => ∀ label, .real label b ∈ f.preorder → InBounds b u := by
    funext name u
    exact propext ⟨fun h b hn label hm => h label b hm hn, fun h label b hm hn => h b hn label hm⟩
  rw [same]

theorem conforms_of_derivable (hf : f.WellFormed) (hg : f.grammar = .ok g)
    (h : Derivable g.text (numbersInBounds f) t) : ∃ v, Spells t v ∧ Conforms v f := by
  have language := (derivable_inBounds_iff hf hg).1 h
  have bounded : ∀ k ∈ f.preorder,
      Bounded (fun b u => ∀ label, .real label b ∈ f.preorder → InBounds b u) k := by
    intro k hk label b he u hu
    subst he
    exact hu label hk
  obtain ⟨v, spelled, conforms⟩ :=
    language_spells f hf (spellable_of_grammar hg) (fun _ : True => bounded) language
  exact ⟨v, spelled, conforms trivial⟩

/-- A derived text is read, and it is accepted unless the walk overflows. -/
theorem derived_accepted_iff (hf : Constructed f) (hg : f.grammar = .ok g)
    (derived : Derivable g.text (fun _ _ => True) t) (shallow : Json.read t ≠ .error .tooDeep) :
    ∃ v, Json.read t = .ok v ∧
      (Derivable g.text (numbersInBounds f) t ∨ (∀ k ∈ f.preorder, k.kind ≠ .real) →
        ((validate (.field f) (some t)).findings = .ok [] ↔ ¬ Overflows v f) ∧
        ((validate (.field f) (some t)).findings = .error .integerTooLarge ↔ Overflows v f)) := by
  obtain ⟨v, spelled⟩ := spells_of_derivable hf.wellFormed hg derived
  have read := spelled.read_of_shallow shallow
  refine ⟨v, read, fun h => ?_⟩
  have bounded : Derivable g.text (numbersInBounds f) t := by
    rcases h with h | none
    · exact h
    · exact derived.mono fun _ _ _ _ _ hm _ => absurd rfl (none _ hm)
  obtain ⟨v', spelled', conforms⟩ := conforms_of_derivable hf.wellFormed hg bounded
  have same := spelled'.read_of_shallow shallow
  rw [read] at same
  obtain rfl := Except.ok.inj same
  have whole : Json.read ((some t).getD []) = .ok v := read
  obtain ⟨accepted, overflowed, -⟩ := Validation.findings_checkRoot f v
  rw [Validation.validate_of_read whole, accepted, overflowed]
  exact ⟨and_iff_right conforms, Iff.rfl⟩

def unitInterval : Bounds Finite64 :=
  ⟨.zero false, .one, by decide +kernel⟩

def tally : Field := .object ⟨"tally", none, by decide, by decide⟩
  [.integer ⟨"count", none, by decide, by decide⟩ ⟨0, 12, by decide⟩,
    .optional ⟨"share", none, by decide, by decide⟩
      (.real ⟨"share", none, by decide, by decide⟩ unitInterval)]

def half : FixedPoint := ⟨false, 0, ['5'], by simp [NumberLiteral.Digits], by decide⟩

def tallyText : List Char :=
  '\x7b' :: commaSeparated [keyText "count" ++ integerText 7, keyText "share" ++ half.text] ++
    ['\x7d']

theorem inBounds_half : InBounds unitInterval half.text := by
  refine ⟨⟨false, ⟨1022 * 2 ^ 52, by decide⟩⟩, ?_, by decide +kernel, by decide +kernel⟩
  have value : half.literal.toBinary64 = .finite ⟨false, ⟨1022 * 2 ^ 52, by decide⟩⟩ := by
    decide +kernel
  have flat : (Json.real half.literal.toBinary64).depth = 0 := rfl
  rw [(spells_fixedPoint half).read, flat, Json.within_of_le (Nat.zero_le _), value]

theorem read_tallyText : Json.read tallyText =
    .ok (.object [(Text.ofString "count", .int 7),
      (Text.ofString "share", .real half.literal.toBinary64)]) := by
  have seven : Spells (integerText 7) (.int 7) := Json.spells_int (by decide)
  let entries : List Entry :=
    [⟨"count", integerText 7, .int 7⟩, ⟨"share", half.text, .real half.literal.toBinary64⟩]
  have each : ∀ m ∈ entries, Spells m.text m.value := by
    simpa [entries] using ⟨seven, spells_fixedPoint half⟩
  have spelled := Json.spells_object each (by decide)
  exact spelled.read.trans (Json.within_of_le (by decide) _)

/-- A count of seven and a share of a half are derived, read and accepted. -/
theorem tally_accepted : Constructed tally ∧ ∃ g, tally.grammar = .ok g ∧
    Derivable g.text (numbersInBounds tally) tallyText ∧
    Json.read tallyText ≠ .error .tooDeep ∧
    (validate (.field tally) (some tallyText)).findings = .ok [] := by
  have wellFormed : tally.WellFormed := by decide
  obtain ⟨g, compiled⟩ := grammar_isOk_iff.2 (show tally.Spellable by decide)
  have bounded : Derivable g.text (numbersInBounds tally) tallyText := by
    refine (derivable_inBounds_iff wellFormed compiled).2 ⟨_, ?_, rfl⟩
    refine ⟨_, _, rfl, ⟨7, by decide, by decide, rfl⟩, .inl ⟨_, [], rfl, ?_, rfl⟩⟩
    exact ⟨half, ⟨Nat.zero_le _, nofun, fun _ => by decide +kernel⟩, rfl, fun _ _ => inBounds_half⟩
  have shallow : Json.read tallyText ≠ .error .tooDeep := by
    rw [read_tallyText]
    exact nofun
  obtain ⟨v, read, accepted⟩ := derived_accepted_iff wellFormed.constructed compiled
    (bounded.mono fun _ _ _ => trivial) shallow
  refine ⟨wellFormed.constructed, g, compiled, bounded, shallow, ?_⟩
  refine (accepted (.inl bounded)).1.2 fun large => ?_
  obtain rfl := Except.ok.inj (read_tallyText.symm.trans read)
  cases large with
  | object hf hv ho =>
    rcases List.mem_cons.1 hf with rfl | hf
    · obtain rfl := Option.some.inj hv
      exact absurd ho nofun
    · rw [List.mem_singleton.1 hf] at hv ho
      obtain rfl := Option.some.inj hv
      cases ho with
      | real h => exact absurd h.choose_spec.1 nofun

/-- The double one, or a count of which no double is as large. -/
def oneOrCount : Field := Validation.orCount (.constant Validation.countLabel (.real .one))

/-- Without any bounds for doubles in a schema, a derived text need not be accepted: the first
alternative cannot say whether the count is the double one. -/
theorem oneOrCount_overflows : Constructed oneOrCount ∧
    (∀ k ∈ oneOrCount.preorder, k.kind ≠ .real) ∧ ∃ g, oneOrCount.grammar = .ok g ∧
      Derivable g.text (fun _ _ => True) Validation.largeDocument ∧
      (validate (.field oneOrCount) (some Validation.largeDocument)).findings =
        .error .integerTooLarge := by
  have wellFormed : oneOrCount.WellFormed := by decide
  obtain ⟨g, compiled⟩ := grammar_isOk_iff.2 (show oneOrCount.Spellable by decide +kernel)
  refine ⟨wellFormed.constructed, by decide, g, compiled, ?_, ?_⟩
  · refine (derivable_free_iff wellFormed compiled).2 (.inr (.inl ⟨_, ?_, rfl⟩))
    exact ⟨_, [], rfl, ⟨_, Validation.beyondDoubles_nonneg, Int.le_refl _, rfl⟩, rfl⟩
  · refine Validation.findings_of_overflows Validation.read_largeDocument ?_
    refine Overflows.variant_head (.object (List.mem_singleton_self _) rfl ?_)
    exact .constant Validation.tooLarge_beyondDoubles

end Documents

end FieldSchema.Grammar
