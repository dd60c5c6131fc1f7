import FieldSchema.Proofs.Grammar.Language
import FieldSchema.Proofs.Grammar.RuleName
import Mathlib.Data.Bool.AllAny

/-! The values that a grammar writes out: the integers between whose digits it counts, and the
constants that it quotes. Not every value of a schema can be written: a reader takes integers of so
many digits only, and a literal holds no control character. -/
namespace FieldSchema

/-- Delete is the one control character that JSON text need not escape, so a text that holds it has
no literal. -/
def Scalar.Spellable : Scalar → Prop
  | .int n => Legible n
  | .real _ => True
  | .text s => '\x7f' ∉ s.toList

instance : DecidablePred Scalar.Spellable
  | .int n => inferInstanceAs (Decidable (Legible n))
  | .real _ => inferInstanceAs (Decidable True)
  | .text s => inferInstanceAs (Decidable ('\x7f' ∉ s.toList))

namespace Field

/-- A field whose values can all be written, down to the leaves. -/
def Spellable (f : Field) : Prop := ∀ g ∈ f.preorder, ∀ v ∈ g.scalars, v.Spellable

instance : DecidablePred Spellable := fun _ => inferInstanceAs (Decidable (∀ g ∈ _, ∀ v ∈ _, _))

theorem closed_spellable : Closed Spellable := closed_preorder _

theorem Spellable.own {f : Field} (h : f.Spellable) : ∀ v ∈ f.scalars, v.Spellable :=
  h f (mem_preorder_self f)

/-- It is enough that the own values can be written, and those of the fields below. -/
theorem Spellable.of_children {f : Field} (own : ∀ v ∈ f.scalars, v.Spellable)
    (below : ∀ g ∈ f.children, g.Spellable) : f.Spellable := by
  unfold Spellable
  rw [preorder_eq, List.forall_mem_cons, List.forall_mem_flatMap]
  exact ⟨own, below⟩

end Field

namespace Grammar

theorem checkDigits_of_legible {n : Int} (h : Legible n) : checkDigits n = .ok () :=
  if_neg (Nat.not_lt.2 h)

theorem checkDigits_of_not_legible {n : Int} (h : ¬ Legible n) :
    checkDigits n = .error .tooManyDigits := if_pos (Nat.lt_of_not_le h)

theorem isClean_numberText {s : String} (h : NumberText s.toList) : isClean s := by
  have signs : ∀ c ∈ ['-', '.', 'e', '+'], isControl c = false :=
    List.all_iff_forall_prop.1 (by decide)
  refine isClean_iff.2 fun c hc => ?_
  rcases h.chars c hc with digit | sign
  · have first : '0'.toNat = 48 := rfl
    have last : '9'.toNat = 57 := rfl
    rw [Char.isDigit_iff_toNat] at digit
    simp [isControl]
    omega
  · exact signs c (by simpa using sign)

theorem isClean_toJson {v : Scalar} (h : v.Spellable) : isClean v.toJson.text := by
  cases v with
  | int n =>
    refine isClean_numberText ?_
    rw [Scalar.toJson, Json.toList_text_int]
    exact numberText_integer n
  | real x =>
    refine isClean_numberText ?_
    rw [Scalar.toJson, Json.toList_text_real]
    exact numberText_real x
  | text s =>
    have quotes : ∀ c ∈ ['"'], isControl c = false := List.all_iff_forall_prop.1 (by decide)
    have inside := isClean_iff.1 (Json.isClean_escape_iff.2 h)
    rw [Scalar.toJson, isClean_iff, Json.toList_text_string]
    simpa [or_imp, forall_and, isControl] using inside

def refusal : Scalar → GrammarError
  | .text s => .controlCharacter (Json.string s).text
  | _ => .tooManyDigits

theorem scalarLiteral_of_spellable {v : Scalar} (h : v.Spellable) :
    scalarLiteral v = .ok (.text v.toJson.text) := by
  have written : literal v.toJson.text = .ok (.text v.toJson.text) := if_pos (isClean_toJson h)
  cases v with
  | int n =>
    rw [scalarLiteral, checkDigits_of_legible h]
    dsimp only [Bind.bind, Except.bind]
    exact written
  | real | text => exact written

theorem scalarLiteral_of_not_spellable {v : Scalar} (h : ¬ v.Spellable) :
    scalarLiteral v = .error (refusal v) := by
  cases v with
  | int n =>
    rw [scalarLiteral, checkDigits_of_not_legible h]
    rfl
  | real => exact absurd trivial h
  | text s =>
    have unclean : ¬ isClean (Json.string s).text := by
      intro clean
      rw [isClean_iff, Json.toList_text_string] at clean
      refine h (Json.isClean_escape_iff.1 (isClean_iff.2 fun c hc => clean c ?_))
      simp [hc]
    unfold scalarLiteral literal
    exact if_neg unclean

theorem scalarLiteral_isOk_iff {v : Scalar} :
    (∃ item, scalarLiteral v = .ok item) ↔ v.Spellable := by
  constructor
  · intro ⟨item, h⟩
    by_contra hn
    rw [scalarLiteral_of_not_spellable hn] at h
    exact absurd h nofun
  · intro h
    exact ⟨_, scalarLiteral_of_spellable h⟩

end Grammar
end FieldSchema
