import FieldSchema.Proofs.Grammar.Sharing
import FieldSchema.Proofs.Schema.Equality

/-! Compiling a field again. Rules are only appended, and a request that was answered once gets the
same answer from all later rules; so a field that has a rule keeps it, at whatever position it comes
again and whatever is compiled in between. -/
namespace FieldSchema.Grammar

namespace RuleSet

variable {P : Type} {r r' : RuleSet P}

/-- The same rules, after more requests that they answered. -/
def reuseMany (r : RuleSet P) (count : Nat) : RuleSet P := { r with reused := r.reused + count }

theorem reuse_reuseMany (r : RuleSet P) (count : Nat) :
    (r.reuseMany count).reuse = r.reuseMany (count + 1) := rfl

theorem reuseMany_reuseMany (r : RuleSet P) (m n : Nat) :
    (r.reuseMany m).reuseMany n = r.reuseMany (m + n) := by
  rw [reuseMany, reuseMany, reuseMany, Nat.add_assoc]

theorem GrowsTo.reuseMany (h : r.GrowsTo r') (count : Nat) : r.GrowsTo (r'.reuseMany count) := h

end RuleSet

open RuleSet (GrowsTo)

section Request

variable {f : Field} {p : Production} {r r' : Rules}

theorem growsTo_request (f : Field) (p : Production) (r : Rules) :
    r.GrowsTo (Rules.request f p r).2 := by
  have answer := answered_request f p r
  generalize Rules.request f p r = answered at answer ⊢
  cases answer with
  | known | found => exact .refl r
  | shared | fresh => exact r.growsTo_define _ p

theorem defines_request (f : Field) (p : Production) (r : Rules) :
    (Rules.request f p r).2.defines (Rules.request f p r).1 := by
  unfold Rules.request
  cases sharedName? f with
  | some name =>
    dsimp only
    rw [r.shared_fst]
    exact r.defines_shared name p
  | none => exact RuleSet.defines_of_nameOf? (r.nameOf?_add _ p)

/-- A request that was answered gets its answer again, and nothing is defined. -/
theorem request_again (h : (Rules.request f p r).2.GrowsTo r') :
    Rules.request f p r' = ((Rules.request f p r).1, r'.reuse) := by
  unfold Rules.request at h ⊢
  cases hs : sharedName? f with
  | some name =>
    rw [hs] at h
    have known : r'.defines name := GrowsTo.defines h (r.defines_shared name p)
    dsimp only
    rw [r.shared_fst, RuleSet.shared, if_pos known]
  | none =>
    rw [hs] at h
    have known : r'.nameOf? p = some (r.add (ruleName f.name) p).1 :=
      GrowsTo.nameOf? h (r.nameOf?_add _ p)
    dsimp only
    rw [RuleSet.add, known]

end Request

section Compilation

/-- From these rules on, the field is compiled to this name, and no rule is added. -/
def Settles (r : Rules) (f : Field) (name : String) : Prop := ∀ r', r.GrowsTo r' →
  ∃ count, 0 < count ∧ (compileField Rules.request f).run r' = (.ok name, r'.reuseMany count)

theorem Settles.later {r r' : Rules} {f : Field} {name : String} (h : Settles r f name)
    (more : r.GrowsTo r') : Settles r' f name := fun r'' hr => h r'' (more.trans hr)

/-- From these rules on, this computation ends in `a`, and no rule is added. -/
def Repeats {α : Type} (r : Rules) (x : Emit Rules α) (a : α) : Prop := ∀ r', r.GrowsTo r' →
  ∃ count, x.run r' = (.ok a, r'.reuseMany count)

namespace Repeats

variable {r : Rules} {α β : Type}

theorem pure (a : α) : Repeats r (Pure.pure a) a := fun _ _ => ⟨0, rfl⟩

theorem lift {e : Except GrammarError α} {a : α} (h : e = .ok a) :
    Repeats r (ExceptT.mk (Pure.pure e)) a := fun _ _ => ⟨0, by rw [h]; rfl⟩

theorem bind {x : Emit Rules α} {k : α → Emit Rules β} {a : α} {b : β} (hx : Repeats r x a)
    (hk : Repeats r (k a) b) : Repeats r (x >>= k) b := by
  intro r' hr
  obtain ⟨m, hm⟩ := hx r' hr
  obtain ⟨n, hn⟩ := hk (r'.reuseMany m) (hr.reuseMany m)
  refine ⟨m + n, ?_⟩
  rw [run_bind, hm]
  dsimp only
  rw [hn, RuleSet.reuseMany_reuseMany]

end Repeats

theorem Settles.repeats {r : Rules} {f : Field} {name : String} (h : Settles r f name) :
    Repeats r (compileField Rules.request f) name := by
  intro r' hr
  obtain ⟨count, -, run⟩ := h r' hr
  exact ⟨count, run⟩

variable {r : Rules}

theorem repeats_members {fields : List Field} {members : List Member}
    (h : MembersStand (Settles r) fields members) :
    Repeats r (compileMembers Rules.request fields) members := by
  induction h with
  | nil => exact .pure _
  | @cons f m fields members hf _ ih =>
    obtain ⟨key, absent, settles⟩ := hf
    obtain ⟨_, value, _⟩ := m
    dsimp only at key absent settles
    obtain rfl := key
    obtain rfl := absent
    cases f with
    | optional label inner => exact .bind settles.repeats (.bind ih (.pure _))
    | _ => exact .bind settles.repeats (.bind ih (.pure _))

theorem repeats_all {fields : List Field} {names : List String}
    (h : List.Forall₂ (Settles r) fields names) :
    Repeats r (compileAll Rules.request fields) names := by
  induction h with
  | nil => exact .pure _
  | cons settles _ ih => exact .bind settles.repeats (.bind ih (.pure _))

/-- Once the fields below it are settled, a field asks for the production it asked for before, and
for nothing else. -/
theorem run_of_asks {f : Field} {p : Production} {r' : Rules} (h : Asks (Settles r) f p)
    (hr : r.GrowsTo r') : ∃ count, (compileField Rules.request f).run r' =
      (emit Rules.request f p).run (r'.reuseMany count) := by
  have after : ∀ {α : Type} {x : Emit Rules α} {a : α} {k : α → Emit Rules String},
      Repeats r x a → ∃ count, (x >>= k).run r' = (k a).run (r'.reuseMany count) := by
    intro α x a k hx
    obtain ⟨count, run⟩ := hx r' hr
    exact ⟨count, by rw [run_bind, run]⟩
  cases h with
  | real | string | boolean | template => exact ⟨0, rfl⟩
  | integer label b hb => exact after (.lift hb)
  | constant label value item hi => exact after (.lift hi)
  | choice label options items hi => exact after (.lift hi)
  | object label fields members hm => exact after (repeats_members hm)
  | variant label alternatives names hn => exact after (repeats_all hn)
  | array label element b name hn => exact after hn.repeats
  | optional label inner name hn => exact after hn.repeats

/-- A request settles its field. -/
theorem settles_request {f : Field} {p : Production} (h : Asks (Settles r) f p) :
    Settles (Rules.request f p r).2 f (Rules.request f p r).1 := by
  intro r' hr
  obtain ⟨count, run⟩ := run_of_asks h ((growsTo_request f p r).trans hr)
  refine ⟨count + 1, Nat.succ_pos _, ?_⟩
  rw [run, run_emit, request_again (hr.reuseMany count), RuleSet.reuse_reuseMany]

theorem answers_settles (r₀ : Rules) :
    Answers Rules.request (fun _ => True) (RuleSet.GrowsTo r₀) Settles := by
  intro r f p hr _ h
  have more := growsTo_request f p r
  exact ⟨hr.trans more, fun g name hg => hg.later more, settles_request h⟩

theorem compileField_settles (f : Field) (r : Rules) :
    Leads (RuleSet.GrowsTo r) Settles r (compileField Rules.request f) fun name r' =>
      Settles r' f name :=
  compileField_leads (answers_settles r) (fun _ _ _ _ => trivial) f r (.refl r) trivial

theorem compileField_defines (f : Field) {r r' : Rules} {name : String}
    (h : (compileField Rules.request f).run r = (.ok name, r')) : r'.defines name := by
  have answers : Answers Rules.request (fun _ => True) (fun _ => True)
      (fun r _ name => r.defines name) := fun r f p _ _ _ =>
    ⟨trivial, fun _ _ hd => (growsTo_request f p r).defines hd, defines_request f p r⟩
  have named := (compileField_leads answers (fun _ _ _ _ => trivial) f r trivial trivial).2.2
  rw [h] at named
  exact named name rfl

/-- The rules after compiling some fields one after the other, whether it succeeds or fails. -/
def Rules.compileEach (fields : List Field) (r : Rules) : Rules :=
  fields.foldl (fun r g => ((compileField Rules.request g).run r).2) r

theorem growsTo_compileEach (fields : List Field) (r : Rules) :
    r.GrowsTo (r.compileEach fields) := by
  induction fields generalizing r with
  | nil => exact .refl r
  | cons g fields ih => exact (compileField_settles g r).1.trans (ih _)

end Compilation

section Requests

def LogSettled (s : Rules × List Request) : Prop := ∀ q ∈ s.2, Settles s.1 q.field q.name

theorem answers_log : Answers record (fun _ => True) LogSettled fun s => Settles s.1 := by
  intro s f p hs _ h
  have more := growsTo_request f p s.1
  have settled := settles_request h
  refine ⟨fun q hq => ?_, fun g name hg => hg.later more, settled⟩
  rcases List.mem_append.1 hq with hq | hq
  · exact (hs q hq).later more
  · rw [List.mem_singleton.1 hq]
    exact settled

theorem exists_settles_requests (f : Field) : ∃ r, ∀ q ∈ requests f, Settles r q.field q.name :=
  ⟨_, (compileField_leads answers_log (fun _ _ _ _ => trivial) f (.empty, [])
    (fun _ hq => absurd hq List.not_mem_nil) trivial).1⟩

variable {f g : Field}

theorem compileField_congr (h : f.withoutHints = g.withoutHints) :
    compileField Rules.request f = compileField Rules.request g := by
  rw [← compileField_withoutHints hintless_request f, h,
    compileField_withoutHints hintless_request g]

theorem Settles.name_eq {r : Rules} {name name' : String} (hf : Settles r f name)
    (hg : Settles r g name') (h : f.withoutHints = g.withoutHints) : name = name' := by
  obtain ⟨_, -, runf⟩ := hf r (.refl r)
  obtain ⟨_, -, rung⟩ := hg r (.refl r)
  rw [compileField_congr h, rung] at runf
  exact (Except.ok.inj (Prod.mk.inj runf).1).symm

end Requests

/-- A field that has been compiled once is compiled to the same name ever after, with other hints
too and whatever fields come in between: the name has a rule and keeps it, no rule is added or
changed, and earlier ones only answer more requests. So equal fields of one schema share one rule,
wherever they stand. -/
theorem compiled_once {f g : Field} (h : f.withoutHints = g.withoutHints) :
    (∀ (r r₁ : Rules) (name : String),
      (compileField Rules.request f).run r = (.ok name, r₁) → ∀ between : List Field,
        let later := r₁.compileEach between
        (∃ p, r₁.lookup name = some p ∧ later.lookup name = some p) ∧
        ∃ count, 0 < count ∧ (compileField Rules.request g).run later =
          (.ok name, { later with reused := later.reused + count })) ∧
    ∀ schema, ∀ q ∈ requests schema, ∀ q' ∈ requests schema,
      q.field = f → q'.field = g → q.name = q'.name := by
  constructor
  · intro r r₁ name run between
    have more := growsTo_compileEach between r₁
    obtain ⟨p, bound⟩ := RuleSet.exists_lookup (compileField_defines f run)
    have settles := (compileField_settles f r).2.2 name (by rw [run])
    rw [run] at settles
    rw [← compileField_congr h]
    exact ⟨⟨p, bound, more.lookup bound⟩, settles _ more⟩
  · rintro schema q hq q' hq' rfl rfl
    obtain ⟨r, settles⟩ := exists_settles_requests schema
    exact (settles q hq).name_eq (settles q' hq') h

def piece (hint : Option String) : Field := .object ⟨"piece", hint, by decide, by decide⟩
  [.string ⟨"code", none, by decide, by decide⟩ ⟨1, 8, by decide⟩,
    .optional ⟨"spare", hint, by decide, by decide⟩
      (.boolean ⟨"spare", none, by decide, by decide⟩)]

/-- Another structure of this name, which gets a rule, and a constant that cannot be compiled. -/
def otherPiece : Field := .object ⟨"pieces", none, by decide, by decide⟩
  [.object ⟨"piece", none, by decide, by decide⟩ [.boolean ⟨"code", none, by decide, by decide⟩],
    .constant ⟨"rubout", none, by decide, by decide⟩ (.text "\u007f")]

theorem piece_compiled_once : (piece none).withoutHints = (piece (some "see list")).withoutHints ∧
    ∃ r₁, (compileField Rules.request (piece none)).run .empty = (.ok "piece", r₁) ∧
      (r₁.compileEach [otherPiece]).names = r₁.names ++ ["piece-2"] ∧
      ∃ count, 0 < count ∧
        (compileField Rules.request (piece (some "see list"))).run (r₁.compileEach [otherPiece]) =
          (.ok "piece", (r₁.compileEach [otherPiece]).reuseMany count) := by
  have same : (piece none).withoutHints = (piece (some "see list")).withoutHints := rfl
  have first : ((compileField Rules.request (piece none)).run .empty).1 = .ok "piece" := rfl
  refine ⟨same, _, Prod.ext first rfl, by decide +kernel, ?_⟩
  exact ((compiled_once same).1 _ _ _ (Prod.ext first rfl) _).2

end FieldSchema.Grammar
