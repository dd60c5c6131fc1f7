import FieldSchema.Proofs.Grammar.Compiled
import FieldSchema.Proofs.Grammar.Refusal
import Mathlib.Data.Finite.Prod
import Mathlib.Data.Set.Finite.Range

/-! What the rules of a grammar refer to. Each rule refers to earlier rules only, so no reference
leads nowhere, none leads back to where it came from, and a rule derives finitely many texts. -/
namespace FieldSchema.Grammar

open Notation

mutual

/-- The names of rules in a production, those in literals and classes apart. -/
def itemReferences : Item → List String
  | .text _ | .oneOf _ _ => []
  | .ref name => [name]
  | .group p | .optional p => references p

def sequenceReferences : List Item → List String
  | [] => []
  | i :: rest => itemReferences i ++ sequenceReferences rest

def references : List (List Item) → List String
  | [] => []
  | s :: rest => sequenceReferences s ++ references rest

end

section References

variable {word : String → Prop}

mutual

theorem word_of_mem_itemReferences (i : Item) (h : ReadableItem word i) :
    ∀ n ∈ itemReferences i, word n := by
  cases i with
  | text | oneOf => exact fun _ hn => absurd hn List.not_mem_nil
  | ref name =>
    rw [ReadableItem] at h
    exact List.forall_mem_singleton.2 h
  | group p | optional p =>
    rw [ReadableItem] at h
    exact word_of_mem_alternatives p h.2

theorem word_of_mem_sequence (s : List Item) (h : ReadableSequence word s) :
    ∀ n ∈ sequenceReferences s, word n := by
  cases s with
  | nil => exact fun _ hn => absurd hn List.not_mem_nil
  | cons i rest =>
    rw [ReadableSequence] at h
    exact List.forall_mem_append.2
      ⟨word_of_mem_itemReferences i h.1, word_of_mem_sequence rest h.2⟩

theorem word_of_mem_alternatives (p : List (List Item)) (h : ReadableAlternatives word p) :
    ∀ n ∈ references p, word n := by
  cases p with
  | nil => exact fun _ hn => absurd hn List.not_mem_nil
  | cons s rest =>
    rw [ReadableAlternatives] at h
    exact List.forall_mem_append.2
      ⟨word_of_mem_sequence s h.1, word_of_mem_alternatives rest h.2⟩

end

theorem Readable.word_of_mem_references {p : Production} (h : Readable word p) :
    ∀ n ∈ references p, word n := word_of_mem_alternatives p (readable_iff.1 h).2

/-- Wherever a rule stands, the rules that it refers to stand before it. -/
theorem Ordered.references_earlier {rules : List (String × Production)} (h : Ordered rules)
    {before after : List (String × Production)} {name : String} {p : Production}
    (split : rules = before ++ (name, p) :: after) : ∀ n ∈ references p, n ∈ before.map (·.1) := by
  induction h generalizing after with
  | nil => exact absurd split (by simp)
  | @snoc rules last q _ _ readable ih =>
    rcases List.eq_nil_or_concat' after with rfl | ⟨front, rule, rfl⟩
    · obtain ⟨rfl, same⟩ := List.append_inj' split rfl
      obtain ⟨rfl, rfl⟩ := Prod.mk.inj (List.singleton_inj.1 same)
      exact Readable.word_of_mem_references readable
    · rw [← List.cons_append, ← List.append_assoc] at split
      exact ih (List.append_inj' split rfl).1

end References

section Finite

variable {rules : List (String × Production)} {admits : String → List Char → Prop}
  {word : String → Prop}

instance finiteChar : Finite Char :=
  Finite.of_injective (fun c => c.val.toFin) fun _ _ h => Char.ext (UInt32.toFin_inj.1 h)

def derivedTexts (rules : List (String × Production)) (admits : String → List Char → Prop)
    (s : Sequence) : Set (List Char) := {w | Derives rules admits s w}

mutual

/-- With finitely many texts for each name, an item derives finitely many texts. -/
theorem finite_item (hw : ∀ n, word n → (derivedTexts rules admits [.ref n]).Finite) (i : Item)
    (h : ReadableItem word i) : (derivedTexts rules admits [i]).Finite := by
  cases i with
  | text s => simp [derivedTexts]
  | oneOf inside ranges =>
    refine (Set.finite_range fun c : Char => [c]).subset ?_
    rintro w hd
    obtain ⟨c, -, rfl⟩ := derives_oneOf.1 hd
    exact ⟨c, rfl⟩
  | ref name =>
    rw [ReadableItem] at h
    exact hw name h
  | group p =>
    rw [ReadableItem] at h
    simpa [derivedTexts] using finite_alternatives hw p h.2
  | optional p =>
    rw [ReadableItem] at h
    have all := (Set.finite_singleton []).union (finite_alternatives hw p h.2)
    refine all.subset fun w hd => ?_
    simpa [derivedTexts] using hd

theorem finite_sequence (hw : ∀ n, word n → (derivedTexts rules admits [.ref n]).Finite)
    (s : List Item)
    (h : ReadableSequence word s) : (derivedTexts rules admits s).Finite := by
  cases s with
  | nil => simp [derivedTexts]
  | cons i rest =>
    rw [ReadableSequence] at h
    have both := Set.Finite.image2 (· ++ ·) (finite_item hw i h.1) (finite_sequence hw rest h.2)
    refine both.subset ?_
    intro w hd
    obtain ⟨u, v, rfl, hu, hv⟩ := derives_cons.1 hd
    exact ⟨u, hu, v, hv, rfl⟩

theorem finite_alternatives (hw : ∀ n, word n → (derivedTexts rules admits [.ref n]).Finite)
    (p : List (List Item)) (h : ReadableAlternatives word p) :
    {w | Produces rules admits p w}.Finite := by
  cases p with
  | nil => simp
  | cons s rest =>
    rw [ReadableAlternatives] at h
    refine ((finite_sequence hw s h.1).union (finite_alternatives hw rest h.2)).subset ?_
    intro w hd
    exact produces_cons.1 hd

end

/-- A rule in order derives finitely many texts, among any rules that define it in this way. -/
theorem Ordered.finite {all : List (String × Production)} (h : Ordered rules)
    (found : ∀ rule ∈ rules, all.lookup rule.1 = some rule.2) :
    ∀ n ∈ rules.map (·.1), (derivedTexts all admits [.ref n]).Finite := by
  induction h with
  | nil => exact fun _ hn => absurd hn List.not_mem_nil
  | @snoc rules name p _ _ readable ih =>
    obtain ⟨earlier, last⟩ := List.forall_mem_append.1 found
    rw [List.map_append, List.forall_mem_append]
    refine ⟨ih earlier, List.forall_mem_singleton.2 ?_⟩
    refine (finite_alternatives (ih earlier) p (readable_iff.1 readable).2).subset fun w hd => ?_
    obtain ⟨q, hq, produced, -⟩ := derives_ref.1 hd
    rw [last _ (List.mem_singleton_self _)] at hq
    obtain rfl := Option.some.inj hq
    exact produced

end Finite

/-- A text that has one rule a line, that of the document first, and refers only backwards. -/
structure OrderlySource (source top : String) (rules : List (String × Production)) : Prop where
  ends : ∃ front, source = front ++ "\n"
  lines : Notation.lines source.toList = s!"root ::= {top}".toList ::
    rules.map fun rule => s!"{rule.1} ::= {rule.2.render}".toList
  read : rules? source = some (("root", [[.ref top]]) :: rules)
  distinct : (rules.map (·.1)).Nodup
  named : ∀ name ∈ rules.map (·.1), RuleWord name ∧ name ≠ "root"
  clean : ∀ rule ∈ rules, isClean rule.2.render
  earlier : ∀ before name p after, rules = before ++ (name, p) :: after →
    ∀ n ∈ references p, n ∈ before.map (·.1)
  defined : top ∈ rules.map (·.1)
  finite : ∀ name ∈ "root" :: rules.map (·.1),
    (derivedTexts (("root", [[.ref top]]) :: rules) (fun _ _ => True) [.ref name]).Finite

/-- The text of a grammar is one rule a line. Names are distinct words, productions are clean, and
rules refer to earlier lines only. -/
theorem grammar_orderlySource {f : Field} {g : Compiled} (hf : Constructed f)
    (hg : f.grammar = .ok g) : OrderlySource g.text g.top g.rules.rules := by
  obtain ⟨ordered, top⟩ := ordered_grammar hf.wellFormed hg
  have sound := sound_grammar hg
  have readable := Compiled.readable_all (ordered.ruleWord _ top) ordered.readable
  have other : ∀ rule ∈ g.rules.rules, rule.1 ≠ "root" := fun rule hr =>
    sound.lookup_ne_root (RuleSet.lookup_of_mem sound.nodup hr)
  have found : ∀ rule ∈ g.rules.rules, g.all.lookup rule.1 = some rule.2 := by
    intro rule hr
    rw [Compiled.all, List.lookup_cons, beq_false_of_ne (other rule hr)]
    exact RuleSet.lookup_of_mem sound.nodup hr
  constructor
  case ends =>
    obtain ⟨front, last, split⟩ :=
      (List.eq_nil_or_concat' g.all).resolve_left (by simp [Compiled.all])
    refine ⟨String.join (front.map fun rule => ruleLine rule ++ "\n") ++ ruleLine last, ?_⟩
    rw [Compiled.text_eq, split, ← String.toList_inj]
    simp [String.toList_join]
  case lines =>
    rw [Compiled.text_eq, Notation.lines_join readable]
    rfl
  case read => exact rules?_grammar hf.wellFormed hg
  case distinct => exact sound.nodup
  case named =>
    intro n hn
    obtain ⟨rule, hr, rfl⟩ := List.mem_map.1 hn
    exact ⟨ordered.ruleWord _ hn, other rule hr⟩
  case clean => exact fun rule hr => isClean_render (ordered.readable rule hr).2
  case earlier => exact fun _ _ _ _ split => ordered.references_earlier split
  case defined => exact top
  case finite =>
    have finite : ∀ n ∈ g.rules.names, (derivedTexts g.all (fun _ _ => True) [.ref n]).Finite :=
      ordered.finite found
    refine List.forall_mem_cons.2 ⟨(finite g.top top).subset fun w hd => ?_, finite⟩
    obtain ⟨p, hp, produced, -⟩ := derives_ref.1 hd
    obtain rfl := Option.some.inj hp
    exact produces_singleton.1 produced

/-- Names and a constant that hold what ends a literal or a line, and members that share a rule. -/
def marked : Field := .object ⟨"a\"]", none, by decide, by decide⟩
  [.constant ⟨"k\" | root", none, by decide, by decide⟩ (.text "\n\\\""),
    .boolean ⟨"seen", none, by decide, by decide⟩,
    .optional ⟨"kept", none, by decide, by decide⟩ (.boolean ⟨"kept", none, by decide, by decide⟩)]

theorem marked_orderlySource : Constructed marked ∧
    ∃ g, marked.grammar = .ok g ∧ OrderlySource g.text g.top g.rules.rules := by
  have constructed : Constructed marked := Field.WellFormed.constructed (by decide)
  obtain ⟨g, compiled⟩ := grammar_isOk_iff.2 (show marked.Spellable by decide)
  exact ⟨constructed, g, compiled, grammar_orderlySource constructed compiled⟩

end FieldSchema.Grammar
