import FieldSchema.Proofs.Grammar.Compiled
import FieldSchema.Proofs.Grammar.Refusal
import FieldSchema.Proofs.Validation.Document

/-! A grammar derives every value that is accepted, written in the way of the schema: without white
space, the members in the order of the fields, and nothing escaped in generated text. -/
namespace FieldSchema.Grammar

open Json (commaSeparated keyText)
open Validation (Conforms Matches checkRoot)

/-- The number is that of the value: the double nearest to it, or the very integer. -/
def FixedPoint.Denotes (d : FixedPoint) (v : Json) : Prop :=
  v = .real d.literal.toBinary64 ∨ ∃ n : Int, v = .int n ∧ d.scaled = n * 10 ^ d.fraction.length

mutual

/-- The texts of a value in the way of a field. What the value itself has to satisfy is not said,
apart from the doubles and the characters that can be written. -/
def Written : Field → Json → List Char → Prop
  | .integer _ _, v, t => t = v.text.toList
  | .real _ b, v, t => ∃ d : FixedPoint, d.Denotes v ∧ d.Within b ∧
    (d.negative = true → d.scaled < 0) ∧ t = d.text
  | .string _ _, v, t => t = v.text.toList ∧ ∃ s, v = .string (.ofList s) ∧ ∀ c ∈ s, isPlain c
  | .boolean _, v, t => t = v.text.toList
  | .constant _ value, v, t => t = v.text.toList ∧ ∀ x, value = .real x → v = .real x
  | .choice _ options, v, t => t = v.text.toList ∧
    ∀ xs, options = .reals xs → ∃ x ∈ xs, v = .real x
  | .template _ p _, v, t => t = v.text.toList ∧ ∃ s,
    v = .string (Text.ofString p.before ++ .ofList s ++ Text.ofString p.after) ∧ ∀ c ∈ s, isPlain c
  | .object _ fields, v, t => ∃ members us, v = .object members ∧
    WrittenMembers fields members us ∧ t = '\x7b' :: commaSeparated us ++ ['\x7d']
  | .variant _ alternatives, v, t => WrittenAny alternatives v t
  | .array _ element _, v, t => ∃ vs ws, v = .array vs ∧
    List.Forall₂ (fun v t => Written element v t) vs ws ∧ t = '[' :: commaSeparated ws ++ [']']
  | .optional _ inner, v, t => v = .null ∧ t = v.text.toList ∨ v ≠ .null ∧ Written inner v t

/-- The members that are there, in the order of the fields. -/
def WrittenMembers : List Field → List (Text × Json) → List (List Char) → Prop
  | [], _, us => us = []
  | .optional label inner :: rest, members, us =>
    match members.lookup (Text.ofString label.name) with
    | some v => ∃ t ts, us = (keyText label.name ++ t) :: ts ∧ Written inner v t ∧
      WrittenMembers rest members ts
    | none => WrittenMembers rest members us
  | f :: rest, members, us =>
    match members.lookup (Text.ofString f.name) with
    | some v => ∃ t ts, us = (keyText f.name ++ t) :: ts ∧ Written f v t ∧
      WrittenMembers rest members ts
    | none => WrittenMembers rest members us

def WrittenAny : List Field → Json → List Char → Prop
  | [], _, _ => False
  | f :: rest, v, t => Conforms v f ∧ Written f v t ∨ WrittenAny rest v t

end

theorem writtenMembers_cons {f : Field} {rest : List Field} {members : List (Text × Json)}
    {us : List (List Char)} : WrittenMembers (f :: rest) members us ↔
      match members.lookup (Text.ofString f.name) with
      | some v => ∃ t ts, us = (keyText f.name ++ t) :: ts ∧ Written f.memberField v t ∧
        WrittenMembers rest members ts
      | none => WrittenMembers rest members us := by
  cases f <;> exact Iff.rfl

section Scalars

theorem text_string (s : List Char) (h : ∀ c ∈ s, isPlain c) :
    (Json.string (.ofList s)).text.toList = '"' :: s ++ ['"'] := by
  rw [Json.toList_text_ofList, flatMap_plain h]

theorem text_template (p : Pattern) (s : List Char) (h : ∀ c ∈ s, isPlain c) :
    (Json.string (Text.ofString p.before ++ .ofList s ++ Text.ofString p.after)).text.toList =
      '"' :: (Json.Escape.string p.before).toList ++ s ++
        (Json.Escape.string p.after).toList ++ ['"'] := by
  have joined : Text.ofString p.before ++ .ofList s ++ Text.ofString p.after =
      Text.ofList (p.before.toList ++ s ++ p.after.toList) := by
    simp [Text.ofList, Text.ofString]
  rw [joined, Json.toList_text_ofList, List.flatMap_append, List.flatMap_append, flatMap_plain h]
  simp [Json.Escape.string]

variable {label : Label} {v : Json} {t : List Char}

theorem written_string {b : Bounds Nat} (hv : Conforms v (.string label b))
    (h : Written (.string label b) v t) : Language (fun _ _ => True) (.string label b) t := by
  obtain ⟨rfl, s, rfl, plain⟩ := h
  have text := text_string s plain
  have length : (Text.ofList s).length = s.length := by simp [Text.ofList]
  generalize Text.ofList s = u at hv text length ⊢
  cases hv with
  | string low high => exact ⟨s, ⟨by omega, by omega, plain⟩, text⟩

theorem written_template {p : Pattern} {b : Bounds Nat} (hv : Conforms v (.template label p b))
    (h : Written (.template label p b) v t) :
    Language (fun _ _ => True) (.template label p b) t := by
  obtain ⟨rfl, s, rfl, plain⟩ := h
  have text := text_template p s plain
  have length : (Text.ofList s).length = s.length := by simp [Text.ofList]
  generalize hu : Text.ofString p.before ++ .ofList s ++ Text.ofString p.after = u at hv text ⊢
  cases hv with
  | @template _ _ _ span low high =>
    rw [List.append_cancel_right_eq, List.append_cancel_left_eq] at hu
    rw [hu] at length
    exact ⟨s, ⟨by omega, by omega, plain⟩, text⟩

theorem written_choice {options : Options} (hv : Conforms v (.choice label options))
    (h : Written (.choice label options) v t) :
    Language (fun _ _ => True) (.choice label options) t := by
  obtain ⟨rfl, exact_⟩ := h
  cases hv with
  | @choice _ _ _ value member fits =>
    cases options with
    | reals xs =>
      obtain ⟨x, hx, rfl⟩ := exact_ xs rfl
      exact ⟨.real x, List.mem_map_of_mem hx, rfl⟩
    | ints ns =>
      obtain ⟨n, -, rfl⟩ := List.mem_map.1 member
      refine ⟨.int n, member, ?_⟩
      rw [fits.eq_toJson nofun]
      rfl
    | texts ss =>
      obtain ⟨s, -, rfl⟩ := List.mem_map.1 member
      refine ⟨.text s, member, ?_⟩
      rw [fits.eq_toJson nofun]
      rfl

end Scalars

mutual

/-- Written in its way, a value that conforms is a text of the field. -/
theorem written_language (f : Field) {v : Json} {t : List Char} (hv : Conforms v f)
    (h : Written f v t) : Language (fun _ _ => True) f t := by
  cases f with
  | integer label b =>
    cases hv with
    | integer low high => exact ⟨_, low, high, h.trans (Json.toList_text_int _)⟩
  | real label b =>
    obtain ⟨d, -, within, sign, rfl⟩ := h
    exact ⟨d, within.fits sign, rfl, trivial⟩
  | string label b => exact written_string hv h
  | boolean label =>
    cases hv with
    | @boolean _ b =>
      have text := h.trans (Json.toList_text_bool b)
      cases b with
      | true => exact .inl text
      | false => exact .inr text
  | constant label value =>
    obtain ⟨rfl, exact_⟩ := h
    cases hv with
    | constant fits =>
      rw [fits.eq_toJson exact_]
      exact rfl
  | choice label options => exact written_choice hv h
  | template label p b => exact written_template hv h
  | object label fields =>
    obtain ⟨members, us, rfl, hus, rfl⟩ := h
    cases hv with
    | object required present known =>
      exact ⟨us, writtenMembers_entries fields required present hus, rfl⟩
  | variant label alternatives => exact writtenAny_language alternatives h
  | array label element b =>
    obtain ⟨vs, ws, rfl, hws, rfl⟩ := h
    cases hv with
    | array low high all =>
      have length := hws.length_eq
      refine ⟨ws, by omega, by omega, ?_, rfl⟩
      clear low high length
      induction hws with
      | nil => simp
      | cons hw _ ih =>
        obtain ⟨first, rest⟩ := List.forall_mem_cons.1 all
        exact List.forall_mem_cons.2 ⟨written_language element first hw, ih rest⟩
  | optional label inner =>
    rcases h with ⟨rfl, rfl⟩ | ⟨other, h⟩
    · rw [Language, Json.toList_text_null]
      exact .inr rfl
    · cases hv with
      | null => exact absurd rfl other
      | optional hv => exact .inl (written_language inner hv h)

theorem writtenMembers_entries (fields : List Field) {members : List (Text × Json)}
    {us : List (List Char)}
    (required : ∀ f ∈ fields, f.isOptional = false →
      (members.lookup (Text.ofString f.name)).isSome)
    (present : ∀ f ∈ fields, ∀ v, members.lookup (Text.ofString f.name) = some v →
      Conforms v f.memberField) (h : WrittenMembers fields members us) :
    Entries (fun _ _ => True) fields us := by
  cases fields with
  | nil => exact h
  | cons f rest =>
    obtain ⟨here, there⟩ := List.forall_mem_cons.1 required
    obtain ⟨fits, others⟩ := List.forall_mem_cons.1 present
    have all := writtenMembers_cons.1 h
    rw [entries_cons]
    cases hm : members.lookup (Text.ofString f.name) with
    | some v =>
      rw [hm] at all
      obtain ⟨t, ts, rfl, ht, hts⟩ := all
      have value : Language (fun _ _ => True) f.memberField t := by
        cases f with
        | optional label inner => exact written_language inner (fits v hm) ht
        | _ => exact written_language _ (fits v hm) ht
      exact .inl ⟨t, ts, rfl, value, writtenMembers_entries rest there others hts⟩
    | none =>
      rw [hm] at all here
      refine .inr ⟨?_, writtenMembers_entries rest there others all⟩
      by_contra ho
      exact absurd (here (Bool.eq_false_iff.2 ho)) nofun

theorem writtenAny_language (fields : List Field) {v : Json} {t : List Char}
    (h : WrittenAny fields v t) : AnyLanguage (fun _ _ => True) fields t := by
  cases fields with
  | nil => exact absurd h not_false
  | cons f rest =>
    rcases h with ⟨hv, h⟩ | h
    · exact .inl (written_language f hv h)
    · exact .inr (writtenAny_language rest h)

end

/-- The grammar of a field derives every value that is accepted, if it is written in its way. -/
theorem accepted_derivable {f : Field} {g : Compiled} {v : Json} {t : List Char}
    (hf : Constructed f) (hg : f.grammar = .ok g)
    (accepted : (checkRoot v (.field f)).findings = .ok []) (written : Written f v t) :
    Derivable g.text (fun _ _ => True) t := by
  have conforms := ((Validation.findings_checkRoot f v).1.1 accepted).1
  exact (derivable_free_iff hf.wellFormed hg).2 (written_language f conforms written)

def sighting : Field := .object ⟨"sighting", none, by decide, by decide⟩
  [.integer ⟨"size", none, by decide, by decide⟩ ⟨0, 9, by decide⟩,
    .optional ⟨"word", none, by decide, by decide⟩
      (.string ⟨"word", none, by decide, by decide⟩ ⟨0, 3, by decide⟩)]

def sightingValue : Json :=
  .object [(Text.ofString "word", .string (.ofList ['é', '!'])), (Text.ofString "size", .int 7)]

def sightingText : List Char :=
  '\x7b' :: commaSeparated [keyText "size" ++ ['7'], keyText "word" ++ ['"', 'é', '!', '"']] ++
    ['\x7d']

/-- A text with the members in the order of the schema is derived. -/
theorem sighting_derivable : Constructed sighting ∧ ∃ g, sighting.grammar = .ok g ∧
    (checkRoot sightingValue (.field sighting)).findings = .ok [] ∧
    Written sighting sightingValue sightingText ∧
    Derivable g.text (fun _ _ => True) sightingText := by
  have wellFormed : sighting.WellFormed := by decide
  obtain ⟨g, compiled⟩ := grammar_isOk_iff.2 (show sighting.Spellable by decide)
  have accepted : (checkRoot sightingValue (.field sighting)).findings = .ok [] := rfl
  have size : Written (.integer ⟨"size", none, by decide, by decide⟩ ⟨0, 9, by decide⟩) (.int 7)
      ['7'] := rfl
  have word : Written (.string ⟨"word", none, by decide, by decide⟩ ⟨0, 3, by decide⟩)
      (.string (.ofList ['é', '!'])) ['"', 'é', '!', '"'] :=
    ⟨by decide, ['é', '!'], rfl, List.all_eq_true.1 (by decide)⟩
  have written : Written sighting sightingValue sightingText :=
    ⟨_, _, rfl, ⟨_, _, rfl, size, _, _, rfl, word, rfl⟩, rfl⟩
  exact ⟨wellFormed.constructed, g, compiled, accepted, written,
    accepted_derivable wellFormed.constructed compiled accepted written⟩

end FieldSchema.Grammar
