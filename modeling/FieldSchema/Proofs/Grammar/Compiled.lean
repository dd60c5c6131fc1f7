import FieldSchema.Proofs.Grammar.Readable

/-! A compiled grammar, read from its text. It derives for a document exactly the texts of the field
that it was compiled from. -/
namespace FieldSchema.Grammar

open Notation

section Words

theorem isRuleChar_of_isDigit {c : Char} (h : c.isDigit) : isRuleChar c := by
  simp [isRuleChar, isNameChar, Char.isAlphanum, h]

theorem isRuleChar_tokenChars {s : List Char} (h : NumberText s) :
    ∀ c ∈ tokenChars s, isRuleChar c := by
  intro c hc
  obtain ⟨d, hd, hc⟩ := List.mem_flatMap.1 hc
  rcases h.chars d hd with digit | rfl | rfl | rfl | rfl
  · have minus := isDigit_ne digit (d := '-') rfl
    have point := isDigit_ne digit (d := '.') rfl
    have plus := isDigit_ne digit (d := '+') rfl
    rw [if_neg minus, if_neg point, if_neg plus, List.mem_singleton] at hc
    rw [hc]
    exact isRuleChar_of_isDigit digit
  · rw [if_pos rfl, List.mem_singleton] at hc
    rw [hc]
    decide
  · rw [if_neg (by decide), if_pos rfl, List.mem_singleton] at hc
    rw [hc]
    decide
  · rw [if_neg (by decide), if_neg (by decide), if_neg (by decide), List.mem_singleton] at hc
    rw [hc]
    decide
  · simp at hc

theorem ruleWord_dashed {name : String} {kind low high : List Char}
    (h : name.toList = dashed kind low high) (hk : ∀ c ∈ kind, isRuleChar c)
    (hl : ∀ c ∈ low, isRuleChar c) (hh : ∀ c ∈ high, isRuleChar c) : RuleWord name := by
  constructor
  · intro he
    simp [he, dashed] at h
  · have dash : isRuleChar '-' := by decide
    intro c hc
    simp only [h, dashed, List.mem_append, List.mem_cons] at hc
    rcases hc with hc | rfl | hc | rfl | hc
    · exact hk c hc
    · exact dash
    · exact hl c hc
    · exact dash
    · exact hh c hc

theorem SharedRule.ruleWord (s : SharedRule) : RuleWord s.name := by
  have digits : ∀ n, ∀ c ∈ Nat.toDigits 10 n, isRuleChar c :=
    fun n c hc => isRuleChar_of_isDigit (isDigit_of_mem_toDigits hc)
  cases s with
  | integer b =>
    exact ruleWord_dashed (toList_integerName b) (List.all_eq_true.1 (by decide))
      (isRuleChar_tokenChars (numberText_integer _)) (isRuleChar_tokenChars (numberText_integer _))
  | real b =>
    exact ruleWord_dashed (toList_realName b) (List.all_eq_true.1 (by decide))
      (isRuleChar_tokenChars (numberText_real _)) (isRuleChar_tokenChars (numberText_real _))
  | string b =>
    exact ruleWord_dashed (toList_stringName b) (List.all_eq_true.1 (by decide))
      (digits _) (digits _)
  | boolean => exact (by decide : RuleWord "boolean")

theorem ruleWord_ruleName {s : String} (h : s ≠ "") : RuleWord (ruleName s) := by
  have text : (ruleName s).toList = s.toList.flatMap spellNameChar := by
    rw [ruleName, String.toList_ofList]
  constructor
  · intro he
    rw [he] at text
    cases hs : s.toList with
    | nil => exact h (String.toList_eq_nil_iff.1 hs)
    | cons c rest =>
      rw [hs, List.flatMap_cons] at text
      have filled : spellNameChar c ≠ [] := by
        unfold spellNameChar
        split <;> simp
      exact filled (List.append_eq_nil_iff.1 text.symm).1
  · intro c hc
    rw [text] at hc
    obtain ⟨d, -, hc⟩ := List.mem_flatMap.1 hc
    have plain : ∀ e, isNameChar e → isRuleChar e := fun e he => by simp [isRuleChar, he]
    unfold spellNameChar at hc
    split at hc
    next hd =>
      rw [List.mem_singleton.1 hc]
      exact plain d hd
    next =>
      simp only [List.cons_append, List.mem_cons, List.mem_append, List.not_mem_nil, or_false] at hc
      rcases hc with rfl | rfl | hc | rfl
      · decide
      · decide
      · exact plain c (isNameChar_hexDigit hc)
      · decide

/-- Fields of different names get different rule names, also where a name looks like the spelling of
another one, and only the empty name has a rule name that is no word of letters, digits and dashes.
-/
theorem ruleName_faithful :
    Function.Injective ruleName ∧ ∀ s, RuleWord (ruleName s) ↔ s ≠ "" := by
  refine ⟨ruleName_injective, fun s => ⟨fun word empty => ?_, ruleWord_ruleName⟩⟩
  rw [empty] at word
  exact word.1 rfl

/-- What looks like the spelling of a character is spelled out itself. -/
example : ["a_b", "a-b", "a-x5f-b"].map ruleName = ["a-x5f-b", "a-x2d-b", "a-x2d-x5f-x2d-b"] := by
  decide +kernel

theorem ruleWord_freeName (r : Rules) {preferred : String} (h : RuleWord preferred) :
    RuleWord (r.freeName preferred) := by
  obtain ⟨-, shape⟩ := r.freeName_spec preferred
  rcases shape with hn | ⟨n, -, hn⟩
  · rw [hn]
    exact h
  · have text := RuleSet.toList_suffixed preferred n
    rw [hn]
    constructor
    · intro he
      rw [he] at text
      simp at text
    · intro c hc
      rw [text] at hc
      rcases List.mem_append.1 hc with hc | hc
      · exact h.2 c hc
      · rcases List.mem_cons.1 hc with rfl | hc
        · decide
        · exact isRuleChar_of_isDigit (isDigit_of_mem_toDigits hc)

end Words

section Compilation

/-- Rules that the notation can say, each of which refers to earlier rules only. -/
inductive Ordered : List (String × Production) → Prop where
  | nil : Ordered []
  | snoc {rules : List (String × Production)} {name : String} {p : Production} : Ordered rules →
    RuleWord name → Readable (fun n => n ∈ rules.map (·.1)) p → Ordered (rules ++ [(name, p)])

theorem Ordered.ruleWord {rules : List (String × Production)} (h : Ordered rules) :
    ∀ name ∈ rules.map (·.1), RuleWord name := by
  induction h with
  | nil => exact fun _ hn => absurd hn List.not_mem_nil
  | snoc _ word _ ih =>
    rw [List.map_append, List.forall_mem_append]
    exact ⟨ih, List.forall_mem_singleton.2 word⟩

theorem Ordered.readable {rules : List (String × Production)} (h : Ordered rules) :
    ∀ rule ∈ rules, ReadableRule rule := by
  induction h with
  | nil => exact fun _ hr => absurd hr List.not_mem_nil
  | snoc earlier word readable ih =>
    rw [List.forall_mem_append]
    exact ⟨ih, List.forall_mem_singleton.2 ⟨word, readable.mono earlier.ruleWord⟩⟩

/-- Whatever the field, the name is that of a rule. -/
def Defined (r : Rules) (_ : Field) (name : String) : Prop := name ∈ r.names

theorem answers_ordered :
    Answers Rules.request Field.WellFormed (fun r => Ordered r.rules) Defined := by
  intro r f p hr hf hp
  have below : ∀ g name, Defined r g name → name ∈ r.names := fun _ _ h => h
  have readable : Readable (fun n => n ∈ r.names) p := hp.readable below hf
  have found : ∀ name ∈ r.names,
      Ordered r.reuse.rules ∧ Persists Defined r r.reuse ∧ Defined r.reuse f name :=
    fun name hn => ⟨hr, fun _ _ h => h, hn⟩
  have added : ∀ name, RuleWord name → Ordered (r.define name p).rules ∧
      Persists Defined r (r.define name p) ∧ Defined (r.define name p) f name := by
    intro name word
    unfold Persists Defined
    rw [RuleSet.names_define]
    exact ⟨hr.snoc word readable, fun _ _ hn => List.mem_append_left _ hn,
      List.mem_append_right _ (List.mem_singleton_self _)⟩
  have answer := answered_request f p r
  generalize Rules.request f p r = answered at answer ⊢
  cases answer with
  | known _ hd => exact found _ (RuleSet.defines_iff.1 hd)
  | @shared s => exact added _ s.ruleWord
  | found _ hn =>
    obtain ⟨⟨n, q⟩, hfound, rfl⟩ := Option.map_eq_some_iff.1 hn
    exact found _ (List.mem_map_of_mem (List.mem_of_find?_eq_some hfound))
  | fresh => exact added _ (ruleWord_freeName r (ruleWord_ruleName f.label.named))

end Compilation

section Source

/-- What the text of a grammar derives for a document. -/
def Derivable (source : String) (admits : String → List Char → Prop) (t : List Char) : Prop :=
  ∃ rules, rules? source = some rules ∧ Derives rules admits [.ref "root"] t

theorem Derivable.mono {source : String} {admits admits' : String → List Char → Prop}
    {t : List Char} (h : Derivable source admits t)
    (more : ∀ name u, admits name u → admits' name u) : Derivable source admits' t := by
  obtain ⟨rules, read, derived⟩ := h
  exact ⟨rules, read, derived.mono more⟩

variable {f : Field} {g : Compiled}

theorem run_of_grammar (h : f.grammar = .ok g) :
    (compileField Rules.request f).run .empty = (.ok g.top, g.rules) := by
  unfold Field.grammar at h
  split at h
  next top rules hr =>
    obtain rfl := Except.ok.inj h
    exact hr
  next => exact absurd h nofun

theorem ordered_grammar (hf : f.WellFormed) (h : f.grammar = .ok g) :
    Ordered g.rules.rules ∧ g.top ∈ g.rules.names := by
  obtain ⟨ordered, -, top⟩ :=
    compileField_leads answers_ordered Field.closed_wellFormed f .empty .nil hf
  rw [run_of_grammar h] at ordered top
  exact ⟨ordered, top g.top rfl⟩

theorem rules?_grammar (hf : f.WellFormed) (h : f.grammar = .ok g) :
    rules? g.text = some g.all := by
  obtain ⟨ordered, top⟩ := ordered_grammar hf h
  exact Compiled.rules?_text (ordered.ruleWord _ top) ordered.readable

theorem sound_grammar (h : f.grammar = .ok g) : Sound g.rules := by
  obtain ⟨sound, -, -⟩ := grammar_leads (fun _ _ => True) f
  rw [run_of_grammar h] at sound
  exact sound

theorem Sound.lookup_ne_root {r : Rules} (h : Sound r) {name : String} {p : Production}
    (hp : r.lookup name = some p) : name ≠ "root" := by
  rcases h.origin name p hp with ⟨s, rfl, -⟩ | hn
  · exact s.name_ne_root
  · intro he
    exact hn.notMem_reserved (by rw [he]; decide)

/-- From its text, a compiled grammar derives exactly the texts of its field. -/
theorem derivable_iff (real : Bounds Finite64 → List Char → Prop) (hf : f.WellFormed)
    (h : f.grammar = .ok g) {t : List Char} :
    Derivable g.text (admitsReal real) t ↔ Language real f t := by
  obtain ⟨-, -, top⟩ := grammar_leads real f
  rw [run_of_grammar h] at top
  have more : Extends g.rules.rules g.all := by
    intro name p hp
    have other := (sound_grammar h).lookup_ne_root hp
    rw [Compiled.all, List.lookup_cons, beq_false_of_ne other]
    exact hp
  have language := top g.top rfl g.all more t
  have root : g.all.lookup "root" = some [[.ref g.top]] := rfl
  have free : admitsReal real "root" t := fun b hb =>
    absurd hb.symm (SharedRule.real b).name_ne_root
  rw [← language]
  constructor
  · rintro ⟨rules, hr, hd⟩
    rw [rules?_grammar hf h] at hr
    obtain rfl := Option.some.inj hr
    obtain ⟨p, hp, hw, -⟩ := derives_ref.1 hd
    rw [root] at hp
    obtain rfl := Option.some.inj hp
    exact produces_singleton.1 hw
  · intro hd
    exact ⟨g.all, rules?_grammar hf h, derives_ref.2 ⟨_, root, produces_singleton.2 hd, free⟩⟩

theorem derivable_free_iff (hf : f.WellFormed) (h : f.grammar = .ok g) {t : List Char} :
    Derivable g.text (fun _ _ => True) t ↔ Language (fun _ _ => True) f t := by
  rw [← derivable_iff (fun _ _ => True) hf h]
  exact ⟨fun hd => hd.mono fun _ _ _ _ _ => trivial, fun hd => hd.mono fun _ _ _ => trivial⟩

end Source

end FieldSchema.Grammar
