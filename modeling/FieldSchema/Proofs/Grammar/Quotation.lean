import FieldSchema.Proofs.Grammar.Soundness

/-! What a quoted literal stands for. Two spellings lie one over the other: a value is spelled as
JSON text, and the characters of that text as a literal. Without its quotes and backslashes a
literal is the JSON text again, and that is read as the value, so no two values have the same
literal. -/
namespace FieldSchema.Grammar

section Quotes

/-- What is spelled up to a quote at the very end. A backslash leaves the character after it as it
is, so a quote there ends nothing. -/
def untilQuote? : List Char → Option (List Char)
  | [] => none
  | '\\' :: c :: rest => (untilQuote? rest).map (c :: ·)
  | c :: rest =>
    if c = '"' then if rest = [] then some [] else none
    else (untilQuote? rest).map (c :: ·)

def denoted? : List Char → Option (List Char)
  | '"' :: rest => untilQuote? rest
  | _ => none

theorem untilQuote?_cons {c : Char} (quote : c ≠ '"') (backslash : c ≠ '\\') (rest : List Char) :
    untilQuote? (c :: rest) = (untilQuote? rest).map (c :: ·) := by
  rw [untilQuote?]
  · exact if_neg quote
  · simp [backslash]

theorem untilQuote?_escaped (s : List Char) :
    untilQuote? (s.flatMap escapeLiteral ++ ['"']) = some s := by
  induction s with
  | nil => rfl
  | cons c s ih =>
    rw [List.flatMap_cons, List.append_assoc, escapeLiteral]
    by_cases hc : c = '"' ∨ c = '\\'
    · rw [if_pos hc]
      simp [untilQuote?, ih]
    · obtain ⟨quote, backslash⟩ := not_or.1 hc
      rw [if_neg hc, List.singleton_append, untilQuote?_cons quote backslash, ih]
      rfl

theorem denoted?_quoteLiteral (s : String) : denoted? (quoteLiteral s).toList = some s.toList := by
  have shape : (quoteLiteral s).toList = '"' :: (s.toList.flatMap escapeLiteral ++ ['"']) := by
    simp [quoteLiteral]
  rw [shape]
  exact untilQuote?_escaped s.toList

end Quotes

section Values

variable {v w : Scalar} {i j : Item}

theorem toJson_injective : Function.Injective Scalar.toJson := by
  intro v w h
  cases v <;> cases w <;> simp only [Scalar.toJson, reduceCtorEq] at h
  · exact congrArg Scalar.int (Json.int.inj h)
  · exact congrArg Scalar.real (Binary64.finite.inj (Json.real.inj h))
  · exact congrArg Scalar.text (Text.ofString_injective (Json.string.inj h))

theorem scalarLiteral_error_iff {e : GrammarError} :
    scalarLiteral v = .error e ↔ ¬ v.Spellable ∧ e = refusal v := by
  by_cases h : v.Spellable
  · rw [scalarLiteral_of_spellable h]
    exact iff_of_false nofun fun refused => refused.1 h
  · rw [scalarLiteral_of_not_spellable h]
    simp [h, eq_comm]

/-- A value is found under two spellings, that of the literal and that of JSON. -/
theorem read_literal (h : scalarLiteral v = .ok i) :
    denoted? i.render.toList = some (scalarText v) ∧ Json.read (scalarText v) = .ok v.toJson := by
  have flat : v.toJson.depth = 0 := by cases v <;> rfl
  have spelled := (spells_scalar (scalarLiteral_isOk_iff.1 ⟨i, h⟩)).read
  rw [flat, Json.within_of_le (Nat.zero_le _)] at spelled
  rw [scalarLiteral_eq h, Item.render]
  exact ⟨denoted?_quoteLiteral _, spelled⟩

theorem scalarLiteral_injective (hv : scalarLiteral v = .ok i) (hw : scalarLiteral w = .ok j)
    (same : i.render = j.render) : v = w := by
  obtain ⟨denoted, read⟩ := read_literal hv
  obtain ⟨denoted', read'⟩ := read_literal hw
  rw [same, denoted'] at denoted
  rw [← Option.some.inj denoted, read'] at read
  exact (toJson_injective (Except.ok.inj read)).symm

/-- The literal of a value denotes a text that is read as this value, and the notation takes it for
that text as well; only texts with a delete character have no literal, and integers that are too
long. A text without control characters has a literal that denotes it. So no two values have the
same literal. -/
theorem literal_faithful :
    (∀ v e, scalarLiteral v = .error e ↔
      (∃ s, v = .text s ∧ '\x7f' ∈ s.toList ∧ e = .controlCharacter (Json.string s).text) ∨
        ∃ n, v = .int n ∧ ¬ Legible n ∧ e = .tooManyDigits) ∧
    (∀ v i, scalarLiteral v = .ok i → ∃ t, denoted? i.render.toList = some t ∧
      Notation.production? i.render.toList = some [[.text (String.ofList t)]] ∧
      Json.read t = .ok v.toJson) ∧
    (∀ s, isClean s → ∃ i, literal s = .ok i ∧ denoted? i.render.toList = some s.toList) ∧
    ∀ v w i j, scalarLiteral v = .ok i → scalarLiteral w = .ok j → i.render = j.render → v = w := by
  refine ⟨fun v e => ?_, fun v i h => ?_, fun s h => ⟨.text s, if_pos h, ?_⟩,
    fun v w i j => scalarLiteral_injective⟩
  · rw [scalarLiteral_error_iff]
    cases v <;> simp [Scalar.Spellable, refusal]
  · obtain ⟨denoted, read⟩ := read_literal h
    have clean : Notation.Readable Notation.RuleWord [[i]] := by
      rw [scalarLiteral_eq h, readable_singleton, sayable_cons, readableItem_text]
      exact ⟨isClean_of_scalarLiteral h, sayable_nil⟩
    have noted := Notation.production?_render clean
    rw [Production.render, renderAlternatives, renderSequence] at noted
    refine ⟨_, denoted, ?_, read⟩
    rw [noted, scalarLiteral_eq h, scalarText, String.ofList_toList]
  · rw [Item.render]
    exact denoted?_quoteLiteral s

/-- A backslash, a quote and a line end: each is escaped in JSON, and then the backslashes and
quotes of that once more. -/
example : (scalarLiteral (.text "\\\"\n")).toOption.map Item.render =
    some "\"\\\"\\\\\\\\\\\\\\\"\\\\n\\\"\"" := by
  decide +kernel

end Values

end FieldSchema.Grammar
