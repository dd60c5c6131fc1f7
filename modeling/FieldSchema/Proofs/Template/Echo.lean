import FieldSchema.Proofs.Template.Composition
import FieldSchema.Proofs.Validation.Document

/-! Validating a template as if it were a document. Descriptions are texts, so they are values of no
field for numbers, truth values, options, arrays or alternatives. A field for text has no means to
tell its description from a text that somebody wrote: it goes by the length and the fixed parts. -/
namespace FieldSchema

open Template
open Validation (Conforms Overflows MemberConforms validate)

/-- Whether a field takes any text of some length in some frame, and takes this one. -/
def TakesText : Field → Text → Prop
  | .string _ b, t => b.low ≤ t.length ∧ t.length ≤ b.high
  | .template _ p b, t => ∃ span, t = Text.ofString p.before ++ span ++ Text.ofString p.after ∧
    b.low ≤ span.length ∧ span.length ≤ b.high
  | .optional _ inner, t => TakesText inner t
  | _, _ => False

/-- The description of a field, as it is read from a template. -/
def shown (f : Field) : Text := Text.ofList ((embedded f).map straight)

/-- A field that takes its own template for a value. -/
inductive Echoes : Field → Prop where
  | object {label : Label} {fields : List Field} : (∀ g ∈ fields, straighten g.name = g.name) →
    (∀ g ∈ fields, Echoes g) → Echoes (.object label fields)
  | constant {label : Label} {value : Scalar} : value.straight = value →
    Echoes (.constant label value)
  | text {f : Field} : TakesText f (shown f) → Echoes f

/-- No two members of an object have names that differ in curly quotes only. -/
def KeysApart : Field → Prop
  | .object _ fields => (fields.map fun g => straighten g.name).Nodup
  | _ => True

instance : DecidablePred KeysApart
  | .object _ fields =>
    inferInstanceAs (Decidable (fields.map fun g : Field => straighten g.name).Nodup)
  | .integer .. | .real .. | .string .. | .constant .. | .boolean .. | .choice .. | .variant ..
  | .array .. | .optional .. | .template .. => isTrue trivial

section Lengths

variable {label : Label}

theorem revealedUnit_ne_nil (n : Nat) : revealedUnit n ≠ [] := by
  unfold revealedUnit Json.Escape.unit
  split
  · simp
  · split <;> simp

theorem revealedSpelling_ne_nil (p : CodePoint) : revealedSpelling p ≠ [] := by
  have units : p.units.flatMap revealedUnit ≠ [] := by
    have some_unit : p.units ≠ [] := by
      unfold CodePoint.units
      split
      · simp
      · split <;> simp
    obtain ⟨u, hu⟩ := List.exists_mem_of_ne_nil _ some_unit
    exact fun none => revealedUnit_ne_nil u (List.flatMap_eq_nil_iff.1 none u hu)
  unfold revealedSpelling
  split
  · split
    · simp
    · split
      · simp
      · exact units
  · exact units

theorem length_quoted (s : Text) :
    s.length < ((revealedStyle .inline).quoted s).length := by
  have spelled : s.length ≤ (s.flatMap revealedSpelling).length := by
    induction s with
    | nil => exact Nat.le_refl 0
    | cons p s ih =>
      have first := List.length_pos_iff.2 (revealedSpelling_ne_nil p)
      rw [List.flatMap_cons, List.length_append, List.length_cons]
      omega
  have quoted : (revealedStyle .inline).quoted s = '"' :: s.flatMap revealedSpelling ++ ['"'] := rfl
  rw [quoted, List.length_append, List.length_cons]
  omega

theorem length_write_item (style : Json.Style Char) (depth : Nat) {items : List Json} {v : Json}
    (h : v ∈ items) :
    (v.write style (depth + 1)).length < ((Json.array items).write style depth).length := by
  obtain ⟨before, after, rfl⟩ := List.append_of_mem h
  cases before with
  | nil =>
    rw [List.nil_append, Json.write, Json.writeItems_cons]
    · simp only [List.length_append, Json.Style.put, List.length_map, List.length_cons]
      omega
    · exact List.cons_ne_nil v after
  | cons u before =>
    rw [List.cons_append, Json.write, Json.writeItems_cons]
    · simp only [List.length_append, Json.Style.put, List.length_map, List.length_cons,
        List.flatMap_append, List.flatMap_cons]
      omega
    · exact List.cons_ne_nil u _

theorem embedded_around {f : Field} {t : Text} {u : List Char} {before after : String}
    (ht : t = Text.ofList u) (h : placeholder f = .string (before ++ t ++ after)) :
    embedded f = before.toList ++ u ++ after.toList := by
  rw [around_ofList ht] at h
  rw [embedded, h, inlined, Text.chars_ofList]

theorem length_option {values : List String} {s : String} (h : s ∈ values) :
    s.toList.length < (embedded (.choice label (.texts values))).length := by
  have around : embedded (.choice label (.texts values)) = "<choice between ".toList ++
      revealed .inline (Options.texts values).toJson ++ ">".toList := embedded_around rfl rfl
  have member : Json.string (Text.ofString s) ∈ (values.map Scalar.text).map Scalar.toJson :=
    List.mem_map_of_mem (List.mem_map_of_mem h)
  have quoted := length_quoted (Text.ofString s)
  have item := length_write_item (revealedStyle .inline) 0 member
  rw [Json.write] at item
  rw [Text.length_ofString] at quoted
  rw [around, revealed, reveal_asciiText Json.Layout.blank_inline, Options.toJson,
    Options.scalars, List.length_append, List.length_append]
  omega

theorem embedded_optional (label : Label) (inner : Field) : embedded (.optional label inner) =
    "<optional: ".toList ++ embedded inner ++ ">".toList :=
  embedded_around (inlined_placeholder inner) rfl

/-- No text that a field is given is longer than its description, and only a constant is as long. -/
theorem length_text {f : Field} {s : String} (h : s ∈ f.texts) :
    s.toList.length ≤ (embedded f).length ∧
      (f.kind ≠ .constant → s.toList.length < (embedded f).length) := by
  have scalar := Field.mem_texts.1 h
  cases f with
  | constant label value =>
    obtain rfl : Scalar.text s = value := List.mem_singleton.1 scalar
    have itself : embedded (.constant label (.text s)) = s.toList := Text.chars_ofList _
    rw [itself]
    exact ⟨Nat.le_refl _, fun other => absurd rfl other⟩
  | choice label options =>
    cases options with
    | texts values =>
      obtain ⟨value, hv, same⟩ := List.mem_map.1 scalar
      obtain rfl := Scalar.text.inj same
      exact ⟨(length_option hv).le, fun _ => length_option hv⟩
    | ints | reals => simp [Field.scalars, Options.scalars] at scalar
  | integer => simp [Field.scalars] at scalar
  | _ => exact absurd scalar List.not_mem_nil

end Lengths

section Texts

variable {f : Field} {t : Text}

theorem conforms_string_optional_iff {label : Label} {inner : Field} :
    Conforms (.string t) (.optional label inner) ↔ Conforms (.string t) inner := by
  constructor
  · intro h
    cases h with
    | optional h => exact h
  · exact .optional

/-- The texts that a field takes without giving them are those that it takes by their length. -/
theorem conforms_text_iff (long : (embedded f).length ≤ t.length)
    (longer : f.kind = .constant → (embedded f).length < t.length) :
    Conforms (.string t) f ↔ TakesText f t := by
  induction f using Field.induct_children with
  | step f ih =>
    -- A text that is given is shorter than a description of it.
    have given : ∀ value ∈ f.scalars, ¬ Validation.Matches (.string t) value := by
      intro value hv fits
      cases fits with
      | text s =>
        obtain ⟨short, shorter⟩ := length_text (Field.mem_texts.2 hv)
        rw [Text.length_ofString] at long longer
        by_cases constant : f.kind = .constant
        · exact absurd (longer constant) (by omega)
        · exact absurd (shorter constant) (by omega)
    cases f with
    | string label b => exact Validation.conforms_string_iff
    | constant label value =>
      rw [Validation.conforms_constant_iff]
      exact iff_of_false (given value (by simp [Field.scalars])) id
    | choice label options =>
      rw [Validation.conforms_choice_iff]
      exact iff_of_false (fun ⟨value, hv, fits⟩ => given value hv fits) id
    | optional label inner =>
      have inside : (embedded inner).length < t.length := by
        rw [embedded_optional, List.length_append, List.length_append] at long
        have opening : 0 < "<optional: ".toList.length := by decide
        omega
      rw [conforms_string_optional_iff]
      exact ih inner (by simp [Field.children]) inside.le (fun _ => inside)
    | template label p b =>
      constructor
      · intro h
        cases h with
        | template low high => exact ⟨_, rfl, low, high⟩
      · intro ⟨span, ht, low, high⟩
        rw [ht]
        exact .template low high
    | _ => exact ⟨nofun, False.elim⟩

end Texts

section Found

variable {f g : Field} {fields : List Field}

/-- In place of anything but an object or a constant a reader finds the description. -/
theorem found_shown (object : f.kind ≠ .object) (constant : f.kind ≠ .constant) :
    found f = .string (shown f) := by
  have text : ∃ t, placeholder f = .string t := by
    cases f with
    | object => exact absurd rfl object
    | constant => exact absurd rfl constant
    | _ => exact ⟨_, rfl⟩
  obtain ⟨t, ht⟩ := text
  have characters := inlined_placeholder f
  rw [ht, inlined] at characters
  rw [characters] at ht
  exact found_text ht

theorem straighten_straighten (s : String) : straighten (straighten s) = straighten s := by
  have twice : ∀ c, straight (straight c) = straight c := by
    intro c
    by_cases h : isCurlyQuote c.toNat
    · have quote : straight c = '"' := if_pos h
      rw [quote]
      decide
    · have itself : straight c = c := if_neg h
      rw [itself, itself]
  rw [straighten, straighten, String.toList_ofList, List.map_map]
  exact congrArg String.ofList (List.map_congr_left fun c _ => twice c)

theorem lookup_found_iff (apart : (fields.map fun g => straighten g.name).Nodup) (hg : g ∈ fields)
    {v : Json} : (fields.map foundMember).lookup (Text.ofString g.name) = some v ↔
      straighten g.name = g.name ∧ v = found g := by
  have same : ∀ h ∈ fields, straighten h.name = straighten g.name → h = g := fun h hh he =>
    List.inj_on_of_nodup_map apart hh hg he
  rw [lookup_foundMember, Option.map_eq_some_iff]
  constructor
  · intro ⟨h, hfind, hv⟩
    have name : straighten h.name = g.name := by simpa using List.find?_some hfind
    have again : straighten h.name = straighten g.name := by
      rw [← name, straighten_straighten]
    obtain rfl := same h (List.mem_of_find?_eq_some hfind) again
    exact ⟨name, hv.symm⟩
  · intro ⟨name, hv⟩
    have some_field : (fields.find? fun h => straighten h.name = g.name).isSome :=
      List.find?_isSome.2 ⟨g, hg, by simpa using name⟩
    obtain ⟨h, hfind⟩ := Option.isSome_iff_exists.1 some_field
    have found_name : straighten h.name = g.name := by simpa using List.find?_some hfind
    obtain rfl := same h (List.mem_of_find?_eq_some hfind) (found_name.trans name.symm)
    exact ⟨h, hfind, hv.symm⟩

theorem found_object_apart {label : Label} (apart : (fields.map fun g => straighten g.name).Nodup) :
    found (.object label fields) = .object (fields.map foundMember) := by
  have keys : ((fields.map foundMember).map (·.1)).Nodup := by
    have names : (fields.map foundMember).map (·.1) =
        (fields.map fun g => straighten g.name).map Text.ofString := by
      rw [keys_foundMember, List.map_map]
      rfl
    rw [names]
    exact apart.map fun _ _ => Text.ofString_injective
  rw [found_object, Json.putAll_eq keys, List.nil_append]

end Found

section Echoes

variable {f g : Field} {t : Text}

theorem echoes_iff_takesText (object : f.kind ≠ .object) (constant : f.kind ≠ .constant) :
    Echoes f ↔ TakesText f (shown f) := by
  constructor
  · intro h
    cases h with
    | object => exact absurd rfl object
    | constant => exact absurd rfl constant
    | text h => exact h
  · exact .text

theorem conforms_shown_iff (object : f.kind ≠ .object) (constant : f.kind ≠ .constant) :
    Conforms (found f) f ↔ Echoes f := by
  have length : (shown f).length = (embedded f).length := by simp [shown, Text.ofList]
  rw [found_shown object constant, echoes_iff_takesText object constant]
  exact conforms_text_iff length.ge fun h => absurd h constant

theorem conforms_found_memberField_iff :
    Conforms (found g) g.memberField ↔ Conforms (found g) g := by
  cases g with
  | optional label inner =>
    rw [found_shown (by simp [Field.kind]) (by simp [Field.kind])]
    exact conforms_string_optional_iff.symm
  | _ => exact Iff.rfl

theorem conforms_found_object {label : Label} {fields : List Field}
    (apart : (fields.map fun g => straighten g.name).Nodup)
    (below : ∀ g ∈ fields, Conforms (found g) g ↔ Echoes g) :
    Conforms (found (.object label fields)) (.object label fields) ↔
      Echoes (.object label fields) := by
  rw [found_object_apart apart, Validation.conforms_object_iff]
  constructor
  · intro ⟨each, known⟩
    have names : ∀ g ∈ fields, straighten g.name = g.name := by
      intro g hg
      obtain ⟨h, hh, key⟩ := known (foundMember g) (List.mem_map_of_mem hg)
      have name : h.name = straighten g.name := Text.ofString_injective key
      have again : straighten h.name = straighten g.name := by rw [name, straighten_straighten]
      have same : h = g := List.inj_on_of_nodup_map apart hh hg again
      rw [← name, same]
    refine .object names fun g hg => ?_
    have member := each g hg
    rw [MemberConforms, (lookup_found_iff apart hg).2 ⟨names g hg, rfl⟩] at member
    exact (below g hg).1 (conforms_found_memberField_iff.1 member)
  · intro h
    cases h with
    | text h => exact absurd h not_false
    | object names echoes =>
      refine ⟨fun g hg => ?_, List.forall_mem_map.2 fun g hg => ⟨g, hg, ?_⟩⟩
      · rw [MemberConforms, (lookup_found_iff apart hg).2 ⟨names g hg, rfl⟩]
        exact conforms_found_memberField_iff.2 ((below g hg).2 (echoes g hg))
      · rw [foundMember, names g hg]

/-- What is found in a template conforms exactly where the template echoes. -/
theorem conforms_found_iff (apart : ∀ g ∈ f.preorder, KeysApart g) :
    Conforms (found f) f ↔ Echoes f := by
  induction f using Field.induct_children with
  | step f ih =>
    have below := fun g hg => ih g hg (Field.closed_preorder _ f apart g hg)
    cases f with
    | object label fields =>
      exact conforms_found_object (apart _ (Field.mem_preorder_self _)) below
    | constant label value =>
      rw [found_constant, conforms_straight_iff]
      constructor
      · exact .constant
      · intro h
        cases h with
        | constant h => exact h
        | text h => exact absurd h not_false
    | _ => exact conforms_shown_iff (by simp [Field.kind]) (by simp [Field.kind])

theorem not_overflows_shown (object : g.kind ≠ .object) (constant : g.kind ≠ .constant) :
    ¬ Overflows (found g) f := by
  rw [found_shown object constant]
  exact Validation.not_overflows_of_small fun n hn => absurd hn List.not_mem_nil

theorem not_overflows_found (apart : ∀ g ∈ f.preorder, KeysApart g) : ¬ Overflows (found f) f := by
  induction f using Field.induct_children with
  | step f ih =>
    cases f with
    | object label fields =>
      have own : (fields.map fun g => straighten g.name).Nodup :=
        apart _ (Field.mem_preorder_self _)
      rw [found_object_apart own]
      intro h
      cases h with
      | @object _ _ _ g v hg hv overflows =>
        obtain ⟨-, rfl⟩ := (lookup_found_iff own hg).1 hv
        have below := ih g hg (Field.closed_preorder _ _ apart g hg)
        cases g with
        | optional =>
          exact not_overflows_shown (by simp [Field.kind]) (by simp [Field.kind]) overflows
        | _ => exact below overflows
    | constant label value =>
      rw [found_constant]
      intro h
      cases value with
      | real x =>
        obtain ⟨n, hn, -⟩ := Validation.overflows_constant_iff.1 h
        simp [Scalar.straight, Scalar.toJson] at hn
      | int | text => cases h
    | _ => exact not_overflows_shown (by simp [Field.kind]) (by simp [Field.kind])

theorem kind_of_takesText (h : TakesText f t) :
    ∀ g ∈ f.preorder, g.kind ∈ [.string, .template, .optional] := by
  induction f using Field.induct_children with
  | step f ih =>
    rw [Field.preorder_eq, List.forall_mem_cons, List.forall_mem_flatMap]
    cases f with
    | string | template => simp [Field.kind, Field.children]
    | optional label inner =>
      refine ⟨by simp [Field.kind], fun g hg => ?_⟩
      obtain rfl : g = inner := List.mem_singleton.1 hg
      exact ih g hg h
    | _ => exact absurd h not_false

theorem kind_of_echoes (h : Echoes f) :
    ∀ g ∈ f.preorder, g.kind ∈ [.object, .constant, .string, .template, .optional] := by
  induction h with
  | @object label fields _ _ ih =>
    rw [Field.preorder_eq, List.forall_mem_cons, List.forall_mem_flatMap]
    exact ⟨by simp [Field.kind], ih⟩
  | constant => simp [Field.preorder, Field.kind]
  | text h =>
    intro g hg
    have kind := kind_of_takesText h g hg
    simp only [List.mem_cons, List.not_mem_nil, or_false] at kind ⊢
    exact .inr (.inr kind)

end Echoes

section Documents

variable {f : Field} {layout : Json.Layout}

theorem exists_template_accepted (hb : layout.Blank) (hw : f.Writable)
    (shallow : (placeholder f).depth ≤ Json.depthLimit)
    (h : (Validation.checkRoot (found f) (.field f)).findings = .ok []) :
    ∃ text, f.writtenTemplate layout = .ok text ∧
      (validate (.field f) (some text.toList)).findings = .ok [] := by
  have read : Json.read ((some (f.templateText layout).toList).getD []) = .ok (found f) :=
    (read_template hb fun _ hg _ hn => hw.legible hg hn).trans (Json.within_of_le shallow _)
  refine ⟨_, Field.writtenTemplate_eq_ok_iff.2 ⟨hw, rfl⟩, ?_⟩
  rw [Validation.validate_of_read read]
  exact h

/-- A template is accepted as a document of its own schema exactly if the schema echoes. It never is
if there is a field in it for numbers, truth values, options, alternatives or arrays. -/
theorem template_accepted_iff {text : String} (hb : layout.Blank)
    (apart : ∀ g ∈ f.preorder, KeysApart g) (ht : f.writtenTemplate layout = .ok text) :
    (∃ faults, (validate (.field f) (some text.toList)).findings = .ok faults) ∧
      ((validate (.field f) (some text.toList)).findings = .ok [] ↔
        (placeholder f).depth ≤ Json.depthLimit ∧ Echoes f) ∧
      ((∃ g ∈ f.preorder,
          g.kind ∈ [.integer, .real, .boolean, .choice, .variant, .array]) →
        (validate (.field f) (some text.toList)).findings ≠ .ok []) := by
  obtain ⟨hw, rfl⟩ := Field.writtenTemplate_eq_ok_iff.1 ht
  have read : Json.read ((some (f.templateText layout).toList).getD []) =
      Json.within (placeholder f).depth (.ok (found f)) :=
    read_template hb fun _ hg _ hn => hw.legible hg hn
  obtain ⟨accepts, overflows, only⟩ :=
    Validation.validate_accepts_iff f (some (f.templateText layout).toList)
  rw [read] at accepts overflows
  have decided : ¬ Overflows (found f) f := not_overflows_found apart
  have accepted : (validate (.field f) (some (f.templateText layout).toList)).findings = .ok [] ↔
      (placeholder f).depth ≤ Json.depthLimit ∧ Echoes f := by
    rw [accepts, ← conforms_found_iff apart, Json.within]
    split
    next deep => simp [deep, decided]
    next deep => simp [deep]
  refine ⟨?_, accepted, ?_⟩
  · cases hv : (validate (.field f) (some (f.templateText layout).toList)).findings with
    | ok faults => exact ⟨faults, rfl⟩
    | error e =>
      have large := hv
      rw [only e hv, overflows, Json.within] at large
      split at large
      · obtain ⟨v, hv, large⟩ := large
        rw [← Except.ok.inj hv] at large
        exact absurd large decided
      · obtain ⟨v, hv, -⟩ := large
        simp at hv
  · rintro ⟨g, hg, kind⟩ h
    have other := kind_of_echoes (accepted.1 h).2 g hg
    simp only [List.mem_cons, List.not_mem_nil, or_false] at kind other
    rcases kind with k | k | k | k | k | k <;> simp [k] at other

def memo : Field := .object ⟨"memo", none, by decide, by decide⟩
  [.constant ⟨"sender", none, by decide, by decide⟩ (.text "Ada"),
    .optional ⟨"remark", none, by decide, by decide⟩
      (.string ⟨"remark", none, by decide, by decide⟩ ⟨0, 90, by decide⟩)]

theorem memo_echoes : Echoes memo := by
  refine .object (by decide) (List.forall_mem_cons.2 ⟨.constant (by decide), ?_⟩)
  refine List.forall_mem_singleton.2 (.text ?_)
  have length : (shown (.optional ⟨"remark", none, by decide, by decide⟩
    (.string ⟨"remark", none, by decide, by decide⟩ ⟨0, 90, by decide⟩))).length = 39 := by
    decide +kernel
  exact ⟨Nat.zero_le _, by rw [length]; decide⟩

/-- The sender stands in the template, and the description of the remark passes for a remark. -/
theorem memo_template_accepted : (Json.Layout.indented [' ', ' ']).Blank ∧
    (∀ g ∈ memo.preorder, KeysApart g) ∧
    ∃ text, memo.writtenTemplate (.indented [' ', ' ']) = .ok text ∧
      (validate (.field memo) (some text.toList)).findings = .ok [] := by
  have blank : (Json.Layout.indented [' ', ' ']).Blank := Json.Layout.blank_spaces 2
  have apart : ∀ g ∈ memo.preorder, KeysApart g := by decide
  have writable : memo.Writable := by
    unfold Field.Writable
    decide
  have written := Field.writtenTemplate_eq_ok_iff.2
    ⟨writable, show _ = memo.templateText (.indented [' ', ' ']) from rfl⟩
  exact ⟨blank, apart, _, written,
    (template_accepted_iff blank apart written).2.1.2 ⟨by decide, memo_echoes⟩⟩

def verse : Field := .string ⟨"verse", none, by decide, by decide⟩ ⟨0, 100, by decide⟩

/-- An optional member with a curly quote in its name, and a constant with a straight one. -/
def inches : Field := .object ⟨"inches", none, by decide, by decide⟩
  [.optional ⟨"5“", none, by decide, by decide⟩ (.boolean ⟨"5", none, by decide, by decide⟩),
    .constant ⟨"5\"", none, by decide, by decide⟩ (.int 5)]

/-- Schemas with other fields than objects and constants, the templates of which are accepted: a
description that is short enough for a text, and one that another member replaces. -/
theorem descriptions_accepted :
    (Constructed verse ∧ verse.kind = .string ∧
      ∃ text, verse.writtenTemplate (.indented [' ', ' ']) = .ok text ∧
        (validate (.field verse) (some text.toList)).findings = .ok []) ∧
    Constructed inches ∧ (∃ g ∈ inches.preorder, g.kind = .optional) ∧
      ∃ text, inches.writtenTemplate (.indented [' ', ' ']) = .ok text ∧
        (validate (.field inches) (some text.toList)).findings = .ok [] := by
  have blank : (Json.Layout.indented [' ', ' ']).Blank := Json.Layout.blank_spaces 2
  have writable : verse.Writable ∧ inches.Writable := by
    unfold Field.Writable
    decide
  refine ⟨⟨Field.WellFormed.constructed (by decide), rfl, ?_⟩,
    Field.WellFormed.constructed (by decide), by decide, ?_⟩
  · have length : (shown verse).length = 28 := by decide +kernel
    have echoes : Echoes verse := .text ⟨Nat.zero_le _, by rw [length]; decide⟩
    have apart : ∀ g ∈ verse.preorder, KeysApart g := by decide
    exact exists_template_accepted blank writable.1 (by decide)
      ((Validation.findings_checkRoot _ _).1.2
        ⟨(conforms_found_iff apart).2 echoes, not_overflows_found apart⟩)
  · have seen : found inches = .object [(Text.ofString "5\"", .int 5)] := by
      rw [inches, found_object]
      rfl
    refine exists_template_accepted blank writable.2 (by decide) ?_
    rw [seen]
    rfl

end Documents

end FieldSchema
