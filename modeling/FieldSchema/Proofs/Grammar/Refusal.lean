import FieldSchema.Proofs.Grammar.Spellable
import FieldSchema.Proofs.Schema.Buildable

/-! Which fields have a grammar. A compilation ends in an error only where it meets a value that
cannot be written, and it meets every value of the tree. -/
namespace FieldSchema.Grammar

theorem checkBounds_eq_ok {b : Bounds Int} :
    checkBounds b = .ok () ↔ Legible b.low ∧ Legible b.high := by
  unfold checkBounds
  by_cases low : Legible b.low
  · rw [checkDigits_of_legible low]
    by_cases high : Legible b.high
    · exact iff_of_true (checkDigits_of_legible high) ⟨low, high⟩
    · refine iff_of_false (fun h => ?_) fun h => high h.2
      rw [checkDigits_of_not_legible high] at h
      exact absurd h nofun
  · rw [checkDigits_of_not_legible low]
    exact iff_of_false nofun fun h => low h.1

section Compiled

theorem forall_of_forall₂ {α β : Type} {r : α → β → Prop} {p : α → Prop} {as : List α}
    {bs : List β} (h : List.Forall₂ r as bs) (hp : ∀ a b, r a b → p a) : ∀ a ∈ as, p a := by
  induction h with
  | nil => simp
  | cons hab _ ih => exact List.forall_mem_cons.2 ⟨hp _ _ hab, ih⟩

/-- The values of a field that asks for a rule can be written, as those are that it asks with. -/
theorem Asks.spellable {f : Field} {p : Production} (h : Asks (fun g _ => g.Spellable) f p) :
    f.Spellable := by
  cases h with
  | integer label b hb =>
    obtain ⟨low, high⟩ := checkBounds_eq_ok.1 hb
    exact .of_children (by simpa [Field.scalars] using ⟨low, high⟩) nofun
  | real | string | boolean | template => exact .of_children nofun nofun
  | constant label value item hi =>
    have own := scalarLiteral_isOk_iff.1 ⟨item, hi⟩
    exact .of_children (by simpa [Field.scalars] using own) nofun
  | choice label options items hi =>
    exact .of_children (fun v hv => scalarLiteral_isOk_iff.1 ((mapM_scalarLiteral hi).2 v hv)) nofun
  | object label fields members hm =>
    refine .of_children nofun (forall_of_forall₂ hm fun f m ⟨_, _, h⟩ => ?_)
    cases f with
    | optional label inner =>
      exact .of_children nofun fun g hg => by rwa [List.mem_singleton.1 hg]
    | _ => exact h
  | variant label alternatives names hn =>
    exact .of_children nofun (forall_of_forall₂ hn fun _ _ h => h)
  | array label element b name hn =>
    exact .of_children nofun fun g hg => by rwa [List.mem_singleton.1 hg]
  | optional label inner name hn =>
    exact .of_children nofun fun g hg => by rwa [List.mem_singleton.1 hg]

theorem spellable_of_grammar {f : Field} {g : Compiled} (h : f.grammar = .ok g) : f.Spellable := by
  have answers : Answers Rules.request (fun _ => True) (fun _ => True)
      (fun _ f _ => f.Spellable) :=
    fun _ _ _ _ _ hp => ⟨trivial, fun _ _ h => h, hp.spellable⟩
  obtain ⟨-, -, top⟩ := compileField_leads answers (fun _ _ _ _ => trivial) f .empty trivial trivial
  unfold Field.grammar at h
  split at h
  next top' rules hr => exact top top' (by rw [hr])
  next => exact absurd h nofun

end Compiled

section Failure

variable {σ α β : Type} {allowed : GrammarError → Prop}

/-- From wherever it starts, this ends in no other errors. -/
def FailsWith (allowed : GrammarError → Prop) (x : Emit σ α) : Prop :=
  ∀ s e, (x.run s).1 = .error e → allowed e

theorem FailsWith.pure (a : α) : FailsWith allowed (Pure.pure a : Emit σ α) :=
  fun _ _ h => absurd h nofun

theorem FailsWith.lift {x : Except GrammarError α} (h : ∀ e, x = .error e → allowed e) :
    FailsWith allowed (ExceptT.mk (Pure.pure x) : Emit σ α) := fun _ => h

theorem FailsWith.bind {x : Emit σ α} {k : α → Emit σ β} (hx : FailsWith allowed x)
    (hk : ∀ a, FailsWith allowed (k a)) : FailsWith allowed (x >>= k) := by
  intro s e he
  rw [run_bind] at he
  rcases hr : x.run s with ⟨e' | a, s'⟩
  · rw [hr] at he
    obtain rfl := Except.error.inj he
    exact hx s e' (by rw [hr])
  · rw [hr] at he
    exact hk a s' e he

variable (ask : Field → Production → σ → String × σ)

theorem FailsWith.emit (f : Field) (p : Production) : FailsWith allowed (emit ask f p) :=
  fun _ _ h => absurd h nofun

/-- A value that cannot be written may be refused. -/
def Admits (allowed : GrammarError → Prop) (v : Scalar) : Prop :=
  ¬ v.Spellable → allowed (refusal v)

theorem scalarLiteral_error {v : Scalar} (hv : Admits allowed v) {e : GrammarError}
    (h : scalarLiteral v = .error e) : allowed e := by
  by_cases spellable : v.Spellable
  · rw [scalarLiteral_of_spellable spellable] at h
    exact absurd h nofun
  · rw [scalarLiteral_of_not_spellable spellable] at h
    obtain rfl := Except.error.inj h
    exact hv spellable

theorem mapM_error {scalars : List Scalar} (hv : ∀ v ∈ scalars, Admits allowed v) {e : GrammarError}
    (h : scalars.mapM scalarLiteral = .error e) : allowed e := by
  induction scalars with
  | nil => exact absurd h nofun
  | cons v rest ih =>
    obtain ⟨first, hrest⟩ := List.forall_mem_cons.1 hv
    rw [List.mapM_cons] at h
    cases hi : scalarLiteral v with
    | error e' =>
      rw [hi] at h
      obtain rfl := Except.error.inj h
      exact scalarLiteral_error first hi
    | ok item =>
      cases hm : rest.mapM scalarLiteral with
      | error e' =>
        rw [hi, hm] at h
        obtain rfl := Except.error.inj h
        exact ih hrest hm
      | ok items =>
        rw [hi, hm] at h
        exact absurd h nofun

theorem checkBounds_error {b : Bounds Int} (low : Admits allowed (.int b.low))
    (high : Admits allowed (.int b.high)) {e : GrammarError} (h : checkBounds b = .error e) :
    allowed e := by
  unfold checkBounds at h
  by_cases hl : Legible b.low
  · rw [checkDigits_of_legible hl] at h
    by_cases hh : Legible b.high
    · exact absurd ((checkDigits_of_legible hh).symm.trans h) nofun
    · obtain rfl := Except.error.inj ((checkDigits_of_not_legible hh).symm.trans h)
      exact high hh
  · rw [checkDigits_of_not_legible hl] at h
    obtain rfl := Except.error.inj h
    exact low hl

/-- All values in a tree that cannot be written may be refused. -/
def AllAdmitted (allowed : GrammarError → Prop) (f : Field) : Prop :=
  ∀ g ∈ f.preorder, ∀ v ∈ g.scalars, Admits allowed v

mutual

/-- A compilation ends in no error but for a value that cannot be written. -/
theorem compileField_failsWith (f : Field) (hf : AllAdmitted allowed f) :
    FailsWith allowed (compileField ask f) := by
  have own : ∀ v ∈ f.scalars, Admits allowed v := hf f f.mem_preorder_self
  have below := Field.closed_preorder _ f hf
  cases f with
  | integer label b =>
    simp only [Field.scalars, List.forall_mem_cons] at own
    exact .bind (.lift fun _ => checkBounds_error own.1 own.2.1) fun _ => .emit ask _ _
  | real | string | boolean | template => exact .emit ask _ _
  | constant label value =>
    exact .bind (.lift fun _ => scalarLiteral_error (own value (by simp [Field.scalars])))
      fun _ => .emit ask _ _
  | choice label options =>
    exact .bind (.lift fun _ => mapM_error own) fun _ => .emit ask _ _
  | object label fields =>
    exact .bind (compileMembers_failsWith fields below) fun _ => .emit ask _ _
  | variant label alternatives =>
    exact .bind (compileAll_failsWith alternatives below) fun _ => .emit ask _ _
  | array label element b =>
    have child := below element (by simp [Field.children])
    exact .bind (compileField_failsWith element child) fun _ => .emit ask _ _
  | optional label inner =>
    have child := below inner (by simp [Field.children])
    exact .bind (compileField_failsWith inner child) fun _ => .emit ask _ _

theorem compileMembers_failsWith (fields : List Field)
    (hf : ∀ f ∈ fields, AllAdmitted allowed f) : FailsWith allowed (compileMembers ask fields) := by
  cases fields with
  | nil => exact .pure _
  | cons f rest =>
    obtain ⟨hfirst, hrest⟩ := List.forall_mem_cons.1 hf
    cases f with
    | optional label inner =>
      have child := Field.closed_preorder _ _ hfirst inner (by simp [Field.children])
      exact .bind (compileField_failsWith inner child) fun _ =>
        .bind (compileMembers_failsWith rest hrest) fun _ => .pure _
    | _ =>
      exact .bind (compileField_failsWith _ hfirst) fun _ =>
        .bind (compileMembers_failsWith rest hrest) fun _ => .pure _

theorem compileAll_failsWith (fields : List Field) (hf : ∀ f ∈ fields, AllAdmitted allowed f) :
    FailsWith allowed (compileAll ask fields) := by
  cases fields with
  | nil => exact .pure _
  | cons f rest =>
    obtain ⟨hfirst, hrest⟩ := List.forall_mem_cons.1 hf
    exact .bind (compileField_failsWith f hfirst) fun _ =>
      .bind (compileAll_failsWith rest hrest) fun _ => .pure _

end

end Failure

/-- An error of a grammar is the refusal of a value that cannot be written. -/
theorem grammar_error {f : Field} {e : GrammarError} (h : f.grammar = .error e) :
    ∃ g ∈ f.preorder, ∃ v ∈ g.scalars, ¬ v.Spellable ∧ e = refusal v := by
  have all : AllAdmitted
      (fun e => ∃ g ∈ f.preorder, ∃ v ∈ g.scalars, ¬ v.Spellable ∧ e = refusal v) f :=
    fun g hg v hv hn => ⟨g, hg, v, hv, hn, rfl⟩
  have fails := compileField_failsWith Rules.request f all
  unfold Field.grammar at h
  split at h
  next => exact absurd h nofun
  next e' rules hr =>
    obtain rfl := Except.error.inj h
    exact fails .empty e' (by rw [hr])

/-- A field has a grammar exactly if all that is in it can be written. -/
theorem grammar_isOk_iff {f : Field} : (∃ g, f.grammar = .ok g) ↔ f.Spellable := by
  constructor
  · intro ⟨g, h⟩
    exact spellable_of_grammar h
  · intro h
    cases hg : f.grammar with
    | ok g => exact ⟨g, rfl⟩
    | error e =>
      obtain ⟨k, hk, v, hv, hn, -⟩ := grammar_error hg
      exact absurd (h k hk v hv) hn

end FieldSchema.Grammar
