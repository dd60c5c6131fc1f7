import FieldSchema.Proofs.Grammar.Compiled
import FieldSchema.Proofs.Grammar.Refusal

/-! The requests of a compilation. Each of them is answered with a rule of the production that was
asked for, whichever fields asked for the same name before or after, so a rule that fields share
derives what each of them derives alone. -/
namespace FieldSchema.Grammar

/-- What a field asks for, and the rules at that point. -/
structure Request where
  field : Field
  production : Production
  before : Rules

namespace Request

variable (q : Request)

def name : String := (Rules.request q.field q.production q.before).1

def after : Rules := (Rules.request q.field q.production q.before).2

end Request

def record (f : Field) (p : Production) (s : Rules × List Request) :
    String × Rules × List Request :=
  let q : Request := ⟨f, p, s.1⟩
  (q.name, q.after, s.2 ++ [q])

/-- The requests that the compilation of a field makes, also if it ends in an error. -/
def requests (f : Field) : List Request := ((compileField record f).run (.empty, [])).2.2

/-- Requests that lead from no rules to these, each one from where the one before it ended. -/
inductive Linked : List Request → Rules → Prop where
  | start : Linked [] .empty
  | next {log : List Request} {r : Rules} (f : Field) (p : Production) : Linked log r →
    Linked (log ++ [⟨f, p, r⟩]) (Rules.request f p r).2

theorem requests_linked (f : Field) :
    Linked (requests f) ((compileField Rules.request f).run .empty).2 := by
  have answers : Answers record (fun _ => True) (fun s => Linked s.2 s.1) fun _ _ _ => True :=
    fun s g p hs _ _ => ⟨.next g p hs, fun _ _ h => h, trivial⟩
  obtain ⟨linked, -, -⟩ :=
    compileField_leads answers (fun _ _ _ _ => trivial) f (.empty, []) .start trivial
  have same : ∀ g p, Follows Prod.fst (emit record g p) (emit Rules.request g p) :=
    fun _ _ _ => rfl
  have plain := compileField_follows same f (.empty, [])
  rw [plain]
  exact linked

/-- What is known of a request once the rules have come to be these. -/
structure Settled (q : Request) (r : Rules) : Prop where
  sound : Sound q.before
  askable : Askable q.field q.production
  found : r.lookup q.name = some q.production
  wellFormed : q.field.WellFormed
  spellable : q.field.Spellable
  stands : ∀ real, Stands real r q.field q.name

theorem Settled.later {q : Request} {r r' : Rules} (h : Settled q r)
    (more : Extends r.rules r'.rules) : Settled q r' :=
  ⟨h.sound, h.askable, more _ _ h.found, h.wellFormed, h.spellable,
    fun real rules hr => h.stands real rules (more.trans hr)⟩

/-- The rules are sound, and all requests so far are settled by them. -/
def AllSettled (s : Rules × List Request) : Prop := Sound s.1 ∧ ∀ q ∈ s.2, Settled q s.1

theorem answers_record : Answers record Field.WellFormed AllSettled
    fun s f name => f.Spellable ∧ ∀ real, Stands real s.1 f name := by
  intro s f p ⟨hs, hlog⟩ hf hp
  have spellable := (hp.mono fun _ _ h => h.1).spellable
  have askable := hp.askable
  obtain ⟨sound, more, found, -⟩ := request_spec hs askable
  have stands : ∀ real, Stands real (Rules.request f p s.1).2 f (Rules.request f p s.1).1 :=
    fun real => (answers_request real s.1 f p hs trivial (hp.mono fun _ _ h => h.2 real)).2.2
  refine ⟨⟨sound, fun q hq => ?_⟩, fun g name hg => ?_, spellable, stands⟩
  · rcases List.mem_append.1 hq with hq | hq
    · exact (hlog q hq).later more
    · rw [List.mem_singleton.1 hq]
      exact ⟨hs, askable, found, hf, spellable, stands⟩
  · exact ⟨hg.1, fun real rules hr => hg.2 real rules (more.trans hr)⟩

theorem requests_settled {f : Field} (hf : f.WellFormed) :
    ∃ r, ∀ q ∈ requests f, Settled q r := by
  have empty : AllSettled (.empty, []) := ⟨sound_empty, fun _ h => absurd h List.not_mem_nil⟩
  obtain ⟨⟨-, settled⟩, -, -⟩ :=
    compileField_leads answers_record Field.closed_wellFormed f (.empty, []) empty hf
  exact ⟨_, settled⟩

theorem structureName_of_new {f : Field} {p : Production} {r : Rules} (h : Sound r)
    (hs : sharedName? f = none) (hn : ¬ r.defines (Rules.request f p r).1) :
    StructureName (Rules.request f p r).1 := by
  rw [f.sharedName?_eq, Option.map_eq_none_iff] at hs
  have answer := answered_request f p r
  generalize Rules.request f p r = answered at answer hn ⊢
  cases answer with
  | known other | shared other => simp [hs] at other
  | found _ hf =>
    have found := RuleSet.lookup_of_nameOf? h.nodup hf
    exact absurd (RuleSet.defines_iff.2 (List.mem_map_of_mem (RuleSet.mem_of_lookup found))) hn
  | fresh => exact structureName_freeName r f.name

/-- Sharing of rules never confuses two fields. -/
theorem requests_consistent {f : Field} (hf : Constructed f) :
    (∀ q ∈ requests f, ∀ name, sharedName? q.field = some name → q.before.defines name →
      q.before.lookup name = some q.production) ∧
    (∀ q ∈ requests f, q.after.lookup q.name = some q.production) ∧
    (∀ q ∈ requests f, sharedName? q.field = none → ¬ q.before.defines q.name →
      q.name ∉ reserved ∧
        ∀ q' ∈ requests f, ∀ name, sharedName? q'.field = some name → q.name ≠ name) ∧
    ∀ q ∈ requests f, ∀ q' ∈ requests f, q.name = q'.name → q.production = q'.production ∧
      ∃ g g', q.field.grammar = .ok g ∧ q'.field.grammar = .ok g' ∧
        ∀ t, Derivable g.text (fun _ _ => True) t ↔ Derivable g'.text (fun _ _ => True) t := by
  obtain ⟨r, settled⟩ := requests_settled hf.wellFormed
  refine ⟨fun q hq name hn hd => ?_, fun q hq => ?_, fun q hq hs hn => ?_, fun q hq q' hq' he => ?_⟩
  · have known := settled q hq
    rw [q.field.sharedName?_eq, Option.map_eq_some_iff] at hn
    obtain ⟨s, hs, rfl⟩ := hn
    have same : q.production = s.production := by
      have askable := known.askable
      unfold Askable at askable
      rw [hs] at askable
      exact askable
    rw [same]
    exact known.sound.lookup_shared s hd
  · have known := settled q hq
    exact (request_spec known.sound known.askable).2.2.1
  · have structured := structureName_of_new (settled q hq).sound hs hn
    refine ⟨structured.notMem_reserved, fun q' _ name hn' => ?_⟩
    rw [q'.field.sharedName?_eq, Option.map_eq_some_iff] at hn'
    obtain ⟨s, -, rfl⟩ := hn'
    exact structured.ne_shared s
  · have known := settled q hq
    have known' := settled q' hq'
    have production : q.production = q'.production := by
      have found := known.found
      rw [he, known'.found] at found
      exact (Option.some.inj found).symm
    obtain ⟨g, hg⟩ := grammar_isOk_iff.2 known.spellable
    obtain ⟨g', hg'⟩ := grammar_isOk_iff.2 known'.spellable
    refine ⟨production, g, g', hg, hg', fun t => ?_⟩
    have language : Language (fun _ _ => True) q.field t ↔
        Language (fun _ _ => True) q'.field t := by
      have left := known.stands (fun _ _ => True) r.rules (fun _ _ h => h) t
      have right := known'.stands (fun _ _ => True) r.rules (fun _ _ h => h) t
      rw [← left, he, right]
    rw [derivable_free_iff known.wellFormed hg, derivable_free_iff known'.wellFormed hg', language]

/-- Names that look like those of shared rules, of numbered ones and of the top rule. -/
def lookalikes : Field := .object ⟨"root", none, by decide, by decide⟩
  [.string ⟨"s", none, by decide, by decide⟩ ⟨3, 20, by decide⟩,
    .constant ⟨"string-3-20", none, by decide, by decide⟩ (.text "s"),
    .object ⟨"part", none, by decide, by decide⟩
      [.constant ⟨"part", none, by decide, by decide⟩ (.int 1)],
    .constant ⟨"part-2", none, by decide, by decide⟩ (.int 2),
    .string ⟨"t", none, by decide, by decide⟩ ⟨3, 20, by decide⟩,
    .constant ⟨"boolean", none, by decide, by decide⟩ (.int 3),
    .boolean ⟨"last", none, by decide, by decide⟩]

/-- Each request gets its own production, under one name where the fields share a rule. -/
theorem lookalikes_consistent : Constructed lookalikes ∧
    (requests lookalikes).map (·.name) =
      ["string-3-20", "string-x2d-3-x2d-20", "part", "part-2", "part-x2d-2", "string-3-20",
        "boolean-2", "boolean", "root-2"] ∧
    ∀ q ∈ requests lookalikes, q.after.lookup q.name = some q.production := by
  have constructed : Constructed lookalikes := Field.WellFormed.constructed (by decide)
  exact ⟨constructed, by decide +kernel, (requests_consistent constructed).2.1⟩

end FieldSchema.Grammar
