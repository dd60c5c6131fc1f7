import FieldSchema.Proofs.Grammar.ReadBack
import FieldSchema.Proofs.Grammar.RuleSet

/-! The text of a whole grammar. It has one clean line for each rule, and so it reads back as the
rule of the document and the rules that were emitted. -/
namespace FieldSchema.Grammar

namespace Notation

section Clean

theorem isClean_quoteLiteral {s : String} (h : isClean s) : isClean (quoteLiteral s) := by
  rw [isClean_iff] at h ⊢
  intro c hc
  have parts : c = '"' ∨ c ∈ s.toList.flatMap escapeLiteral := by
    simp only [quoteLiteral, String.toList_append, List.mem_append, String.toList_ofList] at hc
    rcases hc with (hc | hc) | hc
    · exact .inl (by simpa using hc)
    · exact .inr hc
    · exact .inl (by simpa using hc)
  rcases parts with rfl | hc
  · decide
  · obtain ⟨d, hd, hc⟩ := List.mem_flatMap.1 hc
    unfold escapeLiteral at hc
    split at hc
    · rcases List.mem_cons.1 hc with rfl | hc
      · decide
      · rw [List.mem_singleton.1 hc]
        exact h d hd
    · rw [List.mem_singleton.1 hc]
      exact h d hd

theorem isControl_ruleChar {c : Char} (h : isRuleChar c) : isControl c = false := by
  have none : ∀ n < 128, isControl (Char.ofNat n) → ¬ isRuleChar (Char.ofNat n) := by decide
  by_contra control
  have small : c.toNat < 128 := by
    simp only [isControl, Bool.not_eq_false, Bool.or_eq_true, decide_eq_true_eq,
      beq_iff_eq] at control
    omega
  have excluded := none c.toNat small
  rw [Char.ofNat_toNat] at excluded
  exact excluded (by simpa using control) h

theorem isClean_ruleWord {name : String} (h : RuleWord name) : isClean name :=
  isClean_iff.2 fun c hc => isControl_ruleChar (h.2 c hc)

theorem isClean_class {inside : Bool} {ranges : List (Char × Char)}
    (h : ReadableItem RuleWord (.oneOf inside ranges)) :
    isClean (Item.oneOf inside ranges).render := by
  rw [ReadableItem] at h
  rcases h with h | ⟨low, high, hl, hh, h⟩
  · rw [h, isClean, toList_stringChar]
    decide
  · have digit : ∀ d < 10, (Nat.digitChar d).isDigit := by decide
    have clean : ∀ d < 10, isControl (Nat.digitChar d) = false := by decide
    have ends : isControl '[' = false ∧ isControl '-' = false ∧ isControl ']' = false := by decide
    have first := clean low hl
    have last := clean high hh
    rw [h, isClean_iff, Item.digits, Item.render, String.toList_ofList]
    simp only [classText, spellRange, spellInClass_digit (digit low hl),
      spellInClass_digit (digit high hh), List.flatMap_singleton]
    generalize Nat.digitChar low = a at first
    generalize Nat.digitChar high = b at last
    by_cases hab : a = b <;> simp [hab, first, last, ends]

mutual

theorem isClean_item (i : Item) (h : ReadableItem RuleWord i) : isClean i.render := by
  cases i with
  | text s =>
    rw [ReadableItem] at h
    rw [Item.render]
    exact isClean_quoteLiteral h
  | oneOf inside ranges => exact isClean_class h
  | ref name =>
    rw [ReadableItem] at h
    rw [Item.render]
    exact isClean_ruleWord h
  | group p =>
    rw [ReadableItem] at h
    rw [Item.render]
    simp only [isClean_append]
    exact ⟨⟨by decide, isClean_alternatives p h.2⟩, by decide⟩
  | optional p =>
    rw [ReadableItem] at h
    by_cases hp : p = [[.text "-"]]
    · rw [hp, Item.render]
      decide
    · rw [Item.render_optional hp]
      simp only [isClean_append]
      exact ⟨⟨by decide, isClean_alternatives p h.2⟩, by decide⟩

theorem isClean_sequence (s : List Item) (h : ReadableSequence RuleWord s) :
    isClean (renderSequence s) := by
  cases s with
  | nil =>
    rw [renderSequence]
    decide
  | cons i rest =>
    rw [ReadableSequence] at h
    have first := isClean_item i h.1
    cases rest with
    | nil =>
      rw [renderSequence]
      exact first
    | cons j rest =>
      have more := isClean_sequence (j :: rest) h.2
      rw [renderSequence]
      · simp only [isClean_append]
        exact ⟨⟨first, by decide⟩, more⟩
      · simp

theorem isClean_alternatives (p : List (List Item)) (h : ReadableAlternatives RuleWord p) :
    isClean (renderAlternatives p) := by
  cases p with
  | nil =>
    rw [renderAlternatives]
    decide
  | cons s rest =>
    rw [ReadableAlternatives] at h
    have first := isClean_sequence s h.1
    cases rest with
    | nil =>
      rw [renderAlternatives]
      exact first
    | cons t rest =>
      have more := isClean_alternatives (t :: rest) h.2
      rw [renderAlternatives]
      · simp only [isClean_append]
        exact ⟨⟨first, by decide⟩, more⟩
      · simp

end

theorem isClean_render {p : Production} (h : Readable RuleWord p) : isClean p.render :=
  isClean_alternatives p (readable_iff.1 h).2

end Clean

section Rules

def ruleLine (rule : String × Production) : String := s!"{rule.1} ::= {rule.2.render}"

theorem toList_ruleLine (rule : String × Production) :
    (ruleLine rule).toList = rule.1.toList ++ (" ::= ".toList ++ rule.2.render.toList) := by
  simp [ruleLine, toString]

/-- A rule that the notation can say. -/
def ReadableRule (rule : String × Production) : Prop := RuleWord rule.1 ∧ Readable RuleWord rule.2

theorem rule?_ruleLine {rule : String × Production} (h : ReadableRule rule) :
    rule? (ruleLine rule).toList = some rule := by
  obtain ⟨⟨filled, word⟩, readable⟩ := h
  have name : rule.1.toList ≠ [] := fun hn => filled (String.toList_eq_nil_iff.1 hn)
  have all : ∀ c ∈ rule.1.toList, isRuleChar c = true := word
  have front : " ::= ".toList = ' ' :: "::= ".toList := by decide
  have stop : isRuleChar ' ' = false := by decide
  have take : (ruleLine rule).toList.takeWhile isRuleChar = rule.1.toList := by
    rw [toList_ruleLine, List.takeWhile_append_of_pos all, front, List.cons_append,
      List.takeWhile_cons_of_neg (by simp [stop]), List.append_nil]
  have drop : (ruleLine rule).toList.dropWhile isRuleChar =
      " ::= ".toList ++ rule.2.render.toList := by
    rw [toList_ruleLine, List.dropWhile_append_of_pos all, front, List.cons_append,
      List.dropWhile_cons_of_neg (by simp [stop])]
  unfold rule?
  dsimp only
  rw [take, drop, if_neg name, Search.after?_append, Option.bind_some, production?_render readable]
  simp

theorem lines_append {l : List Char} (h : '\n' ∉ l) (s : List Char) :
    lines (l ++ '\n' :: s) = l :: lines s := by
  induction l with
  | nil => simp [lines]
  | cons c l ih =>
    have other : c ≠ '\n' := fun hc => h (by simp [hc])
    have rest := ih fun hm => h (by simp [hm])
    rw [List.cons_append, lines, if_neg other, rest]

theorem newline_notMem {s : String} (h : isClean s) : '\n' ∉ s.toList := by
  intro hm
  have := isClean_iff.1 h '\n' hm
  exact absurd this (by decide)

theorem isClean_ruleLine {rule : String × Production} (h : ReadableRule rule) :
    isClean (ruleLine rule) := by
  have clean : isClean (rule.1 ++ " ::= " ++ rule.2.render) := by
    simp only [isClean_append]
    exact ⟨⟨isClean_ruleWord h.1, by decide⟩, isClean_render h.2⟩
  have same : ruleLine rule = rule.1 ++ " ::= " ++ rule.2.render := by
    rw [← String.toList_inj, toList_ruleLine]
    simp
  rw [same]
  exact clean

theorem lines_join {rules : List (String × Production)} (h : ∀ rule ∈ rules, ReadableRule rule) :
    lines (String.join (rules.map fun rule => ruleLine rule ++ "\n")).toList =
      rules.map fun rule => (ruleLine rule).toList := by
  induction rules with
  | nil => rfl
  | cons rule rest ih =>
    obtain ⟨hrule, hrest⟩ := List.forall_mem_cons.1 h
    have shape : (String.join ((rule :: rest).map fun rule => ruleLine rule ++ "\n")).toList =
        (ruleLine rule).toList ++ '\n' ::
          (String.join (rest.map fun rule => ruleLine rule ++ "\n")).toList := by
      simp [String.toList_join]
    rw [shape, lines_append (newline_notMem (isClean_ruleLine hrule)), ih hrest, List.map_cons]

theorem rules?_lines {rules : List (String × Production)} (h : ∀ rule ∈ rules, ReadableRule rule) :
    rules? (String.join (rules.map fun rule => ruleLine rule ++ "\n")) = some rules := by
  rw [rules?, lines_join h, List.mapM_map]
  induction rules with
  | nil => rfl
  | cons rule rest ih =>
    obtain ⟨hrule, hrest⟩ := List.forall_mem_cons.1 h
    rw [List.mapM_cons, ih hrest, Function.comp_apply, rule?_ruleLine hrule]
    rfl

end Rules

end Notation

namespace Compiled

/-- The rules of a grammar, with that of the document in front. -/
def all (g : Compiled) : List (String × Production) := ("root", [[.ref g.top]]) :: g.rules.rules

theorem text_eq (g : Compiled) :
    g.text = String.join (g.all.map fun rule => Notation.ruleLine rule ++ "\n") := by
  have first : s!"root ::= {g.top}" = Notation.ruleLine ("root", [[.ref g.top]]) := rfl
  rw [Compiled.text, RuleSet.lines, first, all, List.map_cons, List.map_cons, List.map_map]
  rfl

variable {g : Compiled}

theorem readable_all (top : Notation.RuleWord g.top)
    (h : ∀ rule ∈ g.rules.rules, Notation.ReadableRule rule) :
    ∀ rule ∈ g.all, Notation.ReadableRule rule := by
  have word : Notation.RuleWord "root" := by decide
  refine List.forall_mem_cons.2 ⟨⟨word, by simp, ?_⟩, h⟩
  simpa [Notation.ReadableItem] using top

theorem rules?_text (top : Notation.RuleWord g.top)
    (h : ∀ rule ∈ g.rules.rules, Notation.ReadableRule rule) :
    Notation.rules? g.text = some g.all := by
  rw [text_eq]
  exact Notation.rules?_lines (readable_all top h)

end Compiled

end FieldSchema.Grammar
