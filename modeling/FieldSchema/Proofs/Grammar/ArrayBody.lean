import FieldSchema.Proofs.Grammar.Emission
import FieldSchema.Proofs.Grammar.ObjectBody
import FieldSchema.Proofs.Grammar.Readable

/-! The rule of an array, whatever its elements derive. Its bounds are those of the number of words,
and a comma that separates no two of them comes from the words themselves. -/
namespace FieldSchema.Grammar

open Json (commaSeparated)
open Notation

/-- What is asked for an array whose elements have a rule of this name. -/
def arrayProduction (element : String) (b : Bounds Nat) : Production :=
  [.text "[" :: arrayBody (.ref element) b ++ [.text "]"]]

section Compilation

variable {label : Label} {element : Field} {b : Bounds Nat}

theorem run_array {r r' : Rules} {name : String}
    (h : (compileField Rules.request element).run r = (.ok name, r')) :
    (compileField Rules.request (.array label element b)).run r =
      let (rule, rules) := r'.add (ruleName label.name) (arrayProduction name b)
      (.ok rule, rules) := by
  have unfolded : compileField Rules.request (.array label element b) =
      compileField Rules.request element >>= fun name =>
        emit Rules.request (.array label element b) (arrayProduction name b) := by
    rw [compileField]
    rfl
  rw [unfolded, run_bind, h]
  rfl

theorem readable_arrayProduction {name : String} (h : RuleWord name) (b : Bounds Nat) :
    Readable RuleWord (arrayProduction name b) :=
  readable_between_texts (by decide) (sayable_arrayBody (readableItem_ref.2 h) b) (by decide)

end Compilation

section Words

variable {rules : List (String × Production)} {admits : String → List Char → Prop}
  {name : String} {b : Bounds Nat} {w : List Char}

theorem produces_arrayProduction : Produces rules admits (arrayProduction name b) w ↔
    ∃ ws : List (List Char), b.low ≤ ws.length ∧ ws.length ≤ b.high ∧
      (∀ u ∈ ws, Derives rules admits [.ref name] u) ∧ w = '[' :: commaSeparated ws ++ [']'] := by
  rw [arrayProduction, produces_singleton, derives_between_texts]
  constructor
  · rintro ⟨v, rfl, hv⟩
    obtain ⟨ws, low, high, words, rfl⟩ := derives_arrayBody.1 hv
    exact ⟨ws, low, high, words, rfl⟩
  · rintro ⟨ws, low, high, words, rfl⟩
    exact ⟨commaSeparated ws, rfl, derives_arrayBody.2 ⟨ws, low, high, words, rfl⟩⟩

end Words

/-- An array whose elements compile to a rule asks for one production with that rule's name. It is
read back as it is, and under any rules it derives exactly the words of that name in brackets, as
many as the bounds of the array allow, with a comma between each two. A comma at either end of what
the brackets hold, or two in a row, are part of a word, unless there is one without characters. -/
theorem arrayProduction_exact (label : Label) (element : Field) (b : Bounds Nat) :
    (∀ r r' name, (compileField Rules.request element).run r = (.ok name, r') →
      (compileField Rules.request (.array label element b)).run r =
        let (rule, rules) := r'.add (ruleName label.name) (arrayProduction name b)
        (.ok rule, rules)) ∧
    ∀ name,
      (RuleWord name → Notation.production? (arrayProduction name b).render.toList =
        some (arrayProduction name b)) ∧
      ∀ rules w, (Produces rules (fun _ _ => True) (arrayProduction name b) w ↔
        ∃ ws : List (List Char), b.low ≤ ws.length ∧ ws.length ≤ b.high ∧
          (∀ u ∈ ws, Derives rules (fun _ _ => True) [.ref name] u) ∧
          w = '[' :: commaSeparated ws ++ [']']) ∧
        ∀ body, w = '[' :: body ++ [']'] →
          Produces rules (fun _ _ => True) (arrayProduction name b) w → StrayComma body →
          ∃ u, Derives rules (fun _ _ => True) [.ref name] u ∧ (u = [] ∨ StrayComma u) := by
  refine ⟨fun r r' name => run_array, fun name => ⟨fun h => ?_, fun rules w => ⟨?_, ?_⟩⟩⟩
  · exact Notation.production?_render (readable_arrayProduction h b)
  · exact produces_arrayProduction
  · rintro body rfl derived stray
    obtain ⟨ws, -, -, words, same⟩ := produces_arrayProduction.1 derived
    obtain rfl : body = commaSeparated ws := List.append_cancel_right (List.cons.inj same).2
    obtain ⟨u, hu, cause⟩ := strayComma_commaSeparated stray
    exact ⟨u, words u hu, cause⟩

/-- One to three items. -/
example : (arrayProduction "item" ⟨1, 3, by decide⟩).render =
    "\"[\" item (\",\" item)? (\",\" item)? \"]\"" := by
  decide +kernel

end FieldSchema.Grammar
