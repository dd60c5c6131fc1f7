import FieldSchema.Proofs.Json.Values
import FieldSchema.Proofs.Schema.Buildable
import FieldSchema.Proofs.Schema.Members
import FieldSchema.Proofs.Template.Reveal
import FieldSchema.Proofs.Validation.Conformance
import FieldSchema.Template.Placeholder
import Mathlib.Data.List.Induction

/-! What a reader finds in a template. Objects that are nested in one another directly are objects
of the template too: the keys are the names of the members, and constants stand for themselves, all
with straight quotes for curly ones. -/
namespace FieldSchema

namespace Json

def member? (key : String) : Json → Option Json
  | object members => members.lookup (Text.ofString key)
  | _ => none

end Json

namespace Template

/-- A text with straight quotes for curly ones. -/
def straighten (s : String) : String := String.ofList (s.toList.map straight)

theorem rereadText_ofString (s : String) :
    Json.rereadText CodePoint.straight (Text.ofString s) = Text.ofString (straighten s) := by
  have points : (Text.ofString s).map CodePoint.straight = Text.ofList (s.toList.map straight) := by
    rw [Text.ofString, Text.ofList, Text.ofList, List.map_map, List.map_map]
    rfl
  rw [Json.rereadText, points, Text.joinPairs_ofList, straighten, Text.ofString,
    String.toList_ofList]

def found (f : Field) : Json := (placeholder f).reread CodePoint.straight

end Template

open Template

def Scalar.straight : Scalar → Scalar
  | text s => text (straighten s)
  | v => v

namespace Field

end Field

section Members

def foundMember (f : Field) : Text × Json := (Text.ofString (straighten f.name), found f)

theorem rereadMembers_memberPlaceholders (fields : List Field) :
    Json.rereadMembers CodePoint.straight (memberPlaceholders fields) = fields.map foundMember := by
  induction fields with
  | nil => rfl
  | cons f rest ih =>
    rw [memberPlaceholders, Json.rereadMembers, ih, rereadText_ofString, List.map_cons]
    rfl

theorem found_object (label : Label) (fields : List Field) :
    found (.object label fields) = .object (Json.putAll (fields.map foundMember) []) := by
  rw [found, placeholder, Json.reread, rereadMembers_memberPlaceholders]

theorem found_constant (label : Label) (value : Scalar) :
    found (.constant label value) = value.straight.toJson := by
  rw [found, placeholder]
  cases value with
  | text s => exact congrArg Json.string (rereadText_ofString s)
  | int | real => rfl

theorem keys_foundMember (fields : List Field) : (fields.map foundMember).map (·.1) =
    fields.map fun g => Text.ofString (straighten g.name) := by
  rw [List.map_map]
  rfl

theorem lookup_foundMember (key : String) (fields : List Field) :
    (fields.map foundMember).lookup (Text.ofString key) =
      (fields.find? fun g => straighten g.name = key).map found := by
  induction fields with
  | nil => rfl
  | cons f rest ih =>
    rw [List.map_cons, foundMember, List.lookup_cons, List.find?_cons]
    by_cases h : straighten f.name = key
    · simp [h]
    · have other : (Text.ofString key == Text.ofString (straighten f.name)) = false :=
        beq_false_of_ne fun he => h (Text.ofString_injective he).symm
      simp [h, other, ih]

end Members

section Integers

mutual

theorem integers_placeholder (f : Field) :
    ∀ n ∈ (placeholder f).integers, ∃ g ∈ f.preorder, n ∈ g.integers := by
  intro n hn
  cases f with
  | constant label value =>
    refine ⟨_, Field.mem_preorder_self _, Field.mem_integers.2 ?_⟩
    rw [placeholder] at hn
    cases value with
    | int m => rw [List.mem_singleton.1 hn]; exact List.mem_singleton_self _
    | real | text => exact absurd hn List.not_mem_nil
  | object label fields =>
    rw [placeholder, Json.integers] at hn
    obtain ⟨g, hg, h, hh, hn⟩ := integers_memberPlaceholders fields n hn
    exact ⟨h, Field.mem_preorder_of_child hg hh, hn⟩
  | _ =>
    rw [placeholder] at hn
    exact absurd hn List.not_mem_nil

theorem integers_memberPlaceholders (fields : List Field) :
    ∀ n ∈ Json.memberIntegers (memberPlaceholders fields),
      ∃ f ∈ fields, ∃ g ∈ f.preorder, n ∈ g.integers := by
  intro n hn
  cases fields with
  | nil => exact absurd hn List.not_mem_nil
  | cons f rest =>
    rw [memberPlaceholders, Json.memberIntegers] at hn
    rcases List.mem_append.1 hn with hn | hn
    · exact ⟨f, List.mem_cons_self, integers_placeholder f n hn⟩
    · obtain ⟨g, hg, more⟩ := integers_memberPlaceholders rest n hn
      exact ⟨g, List.mem_cons_of_mem _ hg, more⟩

end

end Integers

theorem read_template {f : Field} {layout : Json.Layout} (hb : layout.Blank)
    (hl : ∀ g ∈ f.preorder, ∀ n ∈ g.integers, Legible n) :
    Json.read (f.templateText layout).toList =
      Json.within (placeholder f).depth (.ok (found f)) := by
  rw [Field.templateText, String.toList_ofList]
  refine read_revealed hb fun n hn => ?_
  obtain ⟨g, hg, hn⟩ := integers_placeholder f n hn
  exact hl g hg n hn

theorem conforms_straight_iff {label : Label} {value : Scalar} :
    Validation.Conforms value.straight.toJson (.constant label value) ↔ value.straight = value := by
  rw [Validation.conforms_constant_iff]
  constructor
  · intro fits
    cases value with
    | int | real => rfl
    | text s =>
      have same := Json.string.inj (fits.eq_toJson nofun)
      exact congrArg Scalar.text (Text.ofString_injective same)
  · intro h
    rw [h]
    exact Validation.matches_toJson value

def addressee : Field := .object ⟨"“to”", none, by decide, by decide⟩
  [.constant ⟨"“name“", none, by decide, by decide⟩ (.int 7),
    .array ⟨"lines", none, by decide, by decide⟩
      (.string ⟨"line", none, by decide, by decide⟩ ⟨0, 80, by decide⟩) ⟨1, 4, by decide⟩,
    .constant ⟨"”name”", none, by decide, by decide⟩ (.text "“Ada” \\ Ω")]

def letter : Field := .object ⟨"letter", none, by decide, by decide⟩
  [addressee, .integer ⟨"pages", none, by decide, by decide⟩ ⟨1, 20, by decide⟩]

end FieldSchema
