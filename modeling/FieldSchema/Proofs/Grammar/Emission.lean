import FieldSchema.Grammar.Compile
import FieldSchema.Proofs.Schema.Members
import Mathlib.Data.List.Forall2

/-! What a compilation asks for. Each field asks for one production, built from the names that the
fields below it got; so what one request keeps, a whole compilation keeps, whether it ends in a name
or in an error. -/
namespace FieldSchema.Grammar

section Run

variable {σ α β : Type} (s : σ)

theorem run_pure (a : α) : (pure a : Emit σ α).run s = (.ok a, s) := rfl

theorem run_bind (x : Emit σ α) (k : α → Emit σ β) : (x >>= k).run s =
    match x.run s with
    | (.ok a, s') => (k a).run s'
    | (.error e, s') => (.error e, s') := by
  change (ExceptT.bindCont k (x.run s).1) (x.run s).2 = _
  rcases x.run s with ⟨_ | _, _⟩ <;> rfl

theorem run_emit (ask : Field → Production → σ → String × σ) (f : Field) (p : Production) :
    (emit ask f p).run s = (.ok (ask f p s).1, (ask f p s).2) := rfl

end Run

section Request

variable (stands : Field → String → Prop)

def MembersStand : List Field → List Member → Prop :=
  List.Forall₂ fun f m =>
    m.key = f.name ∧ m.optional = f.isOptional ∧ stands f.memberField m.value

/-- The production that a field asks for, where `stands` says which names are those of the fields
below it. -/
inductive Asks : Field → Production → Prop where
  | integer (label b) : checkBounds b = .ok () →
    Asks (.integer label b) (integerRange b.low b.high)
  | real (label b) : Asks (.real label b) (decimalRange b)
  | string (label b) :
    Asks (.string label b) [.text "\"" :: stringBody b ++ [.text "\""]]
  | boolean (label) : Asks (.boolean label) [[.text "true"], [.text "false"]]
  | constant (label value item) : scalarLiteral value = .ok item →
    Asks (.constant label value) [[item]]
  | choice (label) (options : Options) (items) : options.scalars.mapM scalarLiteral = .ok items →
    Asks (.choice label options) (items.map ([·]))
  | template (label pattern b) : Asks (.template label pattern b)
      [.text ("\"" ++ Json.Escape.string pattern.before) :: stringBody b ++
        [.text (Json.Escape.string pattern.after ++ "\"")]]
  | object (label fields members) : MembersStand stands fields members →
    Asks (.object label fields)
      [.text "\x7b" :: objectBody (members.map Member.part) ++ [.text "\x7d"]]
  | variant (label alternatives names) : List.Forall₂ stands alternatives names →
    Asks (.variant label alternatives) (names.map fun name => [.ref name])
  | array (label element b name) : stands element name →
    Asks (.array label element b) [.text "[" :: arrayBody (.ref name) b ++ [.text "]"]]
  | optional (label inner name) : stands inner name →
    Asks (.optional label inner) [[.ref name], [.text "null"]]

theorem Asks.mono {stands stands' : Field → String → Prop} {f : Field} {p : Production}
    (more : ∀ g name, stands g name → stands' g name) (h : Asks stands f p) : Asks stands' f p := by
  cases h with
  | integer label b hb => exact .integer label b hb
  | real label b => exact .real label b
  | string label b => exact .string label b
  | boolean label => exact .boolean label
  | constant label value item hi => exact .constant label value item hi
  | choice label options items hi => exact .choice label options items hi
  | template label pattern b => exact .template label pattern b
  | object label fields members hm =>
    exact .object label fields members
      (hm.imp fun _ _ ⟨key, absent, h⟩ => ⟨key, absent, more _ _ h⟩)
  | variant label alternatives names hn =>
    exact .variant label alternatives names (hn.imp fun _ _ => more _ _)
  | array label element b name hn => exact .array label element b name (more _ _ hn)
  | optional label inner name hn => exact .optional label inner name (more _ _ hn)

end Request

section Compilation

variable {σ : Type} (ask : Field → Production → σ → String × σ) (among : Field → Prop)
  (inv : σ → Prop) (stands : σ → Field → String → Prop)

def Persists (s s' : σ) : Prop := ∀ f name, stands s f name → stands s' f name

variable {inv stands} in
theorem Persists.trans {s₁ s₂ s₃ : σ} (h : Persists stands s₁ s₂) (h' : Persists stands s₂ s₃) :
    Persists stands s₁ s₃ := fun f name hf => h' f name (h f name hf)

/-- One request keeps the invariant and all names, and the name it gives stands for the field. -/
def Answers : Prop := ∀ s f p, inv s → among f → Asks (stands s) f p →
  inv (ask f p s).2 ∧ Persists stands s (ask f p s).2 ∧ stands (ask f p s).2 f (ask f p s).1

/-- Run from `s`, this keeps the invariant and all names, and a result satisfies `post`. -/
def Leads {α : Type} (s : σ) (x : Emit σ α) (post : α → σ → Prop) : Prop :=
  inv (x.run s).2 ∧ Persists stands s (x.run s).2 ∧
    ∀ a, (x.run s).1 = .ok a → post a (x.run s).2

variable {ask among inv stands}

theorem Leads.pure {α : Type} {s : σ} {a : α} {post : α → σ → Prop} (hs : inv s)
    (h : post a s) : Leads inv stands s (Pure.pure a) post := by
  refine ⟨hs, fun _ _ h => h, fun b hb => ?_⟩
  rw [run_pure] at hb
  obtain rfl := Except.ok.inj hb
  exact h

theorem Leads.lift {α : Type} {s : σ} {e : Except GrammarError α} (hs : inv s) :
    Leads inv stands s (ExceptT.mk (Pure.pure e)) fun a _ => e = .ok a :=
  ⟨hs, fun _ _ h => h, fun _ h => h⟩

theorem Leads.bind {α β : Type} {s : σ} {x : Emit σ α} {k : α → Emit σ β}
    {mid : α → σ → Prop} {post : β → σ → Prop} (hx : Leads inv stands s x mid)
    (hk : ∀ a s', inv s' → Persists stands s s' → mid a s' → Leads inv stands s' (k a) post) :
    Leads inv stands s (x >>= k) post := by
  obtain ⟨kept, later, done⟩ := hx
  unfold Leads
  rw [run_bind]
  rcases hr : x.run s with ⟨e | a, s'⟩
  · rw [hr] at kept later
    exact ⟨kept, later, nofun⟩
  · rw [hr] at kept later done
    obtain ⟨kept', later', done'⟩ := hk a s' kept later (done a rfl)
    exact ⟨kept', later.trans later', done'⟩

theorem Leads.emit (answers : Answers ask among inv stands) {s : σ} {f : Field} {p : Production}
    (hs : inv s) (hf : among f) (h : Asks (stands s) f p) :
    Leads inv stands s (emit ask f p) fun name s' => stands s' f name := by
  obtain ⟨kept, later, name⟩ := answers s f p hs hf h
  refine ⟨kept, later, fun n hn => ?_⟩
  rw [run_emit] at hn
  obtain rfl := Except.ok.inj hn
  exact name

mutual

/-- The name that a compiled field gets stands for it. -/
theorem compileField_leads (answers : Answers ask among inv stands)
    (closed : Field.Closed among) (f : Field) (s : σ) (hs : inv s) (hf : among f) :
    Leads inv stands s (compileField ask f) fun name s' => stands s' f name := by
  have below := closed f hf
  cases f with
  | integer label b =>
    refine .bind (.lift hs) fun _ s' hs' _ h => ?_
    exact .emit answers hs' hf (.integer label b h)
  | real label b => exact .emit answers hs hf (.real label b)
  | string label b => exact .emit answers hs hf (.string label b)
  | boolean label => exact .emit answers hs hf (.boolean label)
  | constant label value =>
    refine .bind (.lift hs) fun item s' hs' _ h => ?_
    exact .emit answers hs' hf (.constant label value item h)
  | choice label options =>
    refine .bind (.lift hs) fun items s' hs' _ h => ?_
    exact .emit answers hs' hf (.choice label options items h)
  | template label pattern b => exact .emit answers hs hf (.template label pattern b)
  | object label fields =>
    refine .bind (compileMembers_leads answers closed fields s hs below) ?_
    intro members s' hs' _ h
    exact .emit answers hs' hf (.object label fields members h)
  | variant label alternatives =>
    refine .bind (compileAll_leads answers closed alternatives s hs below) ?_
    intro names s' hs' _ h
    exact .emit answers hs' hf (.variant label alternatives names h)
  | array label element b =>
    have child := below element (by simp [Field.children])
    refine .bind (compileField_leads answers closed element s hs child) fun name s' hs' _ h => ?_
    exact .emit answers hs' hf (.array label element b name h)
  | optional label inner =>
    have child := below inner (by simp [Field.children])
    refine .bind (compileField_leads answers closed inner s hs child) fun name s' hs' _ h => ?_
    exact .emit answers hs' hf (.optional label inner name h)

theorem compileMembers_leads (answers : Answers ask among inv stands)
    (closed : Field.Closed among) (fields : List Field) (s : σ) (hs : inv s)
    (hf : ∀ f ∈ fields, among f) : Leads inv stands s (compileMembers ask fields)
      fun members s' => MembersStand (stands s') fields members := by
  cases fields with
  | nil => exact .pure hs .nil
  | cons f rest =>
    obtain ⟨hfirst, hrest⟩ := List.forall_mem_cons.1 hf
    -- An optional member differs only in the field that is compiled.
    have step : ∀ value s', inv s' → stands s' f.memberField value →
        Leads inv stands s' (do
          return ⟨f.name, value, f.isOptional⟩ :: (← compileMembers ask rest))
          fun members s'' => MembersStand (stands s'') (f :: rest) members := by
      intro value s' hs' hvalue
      refine .bind (compileMembers_leads answers closed rest s' hs' hrest) ?_
      intro members s'' hs'' later h
      exact .pure hs'' (.cons ⟨rfl, rfl, later _ _ hvalue⟩ h)
    cases f with
    | optional label inner =>
      have child := closed _ hfirst inner (by simp [Field.children])
      exact .bind (compileField_leads answers closed inner s hs child)
        fun value s' hs' _ h => step value s' hs' h
    | _ =>
      exact .bind (compileField_leads answers closed _ s hs hfirst)
        fun value s' hs' _ h => step value s' hs' h

theorem compileAll_leads (answers : Answers ask among inv stands)
    (closed : Field.Closed among) (fields : List Field) (s : σ) (hs : inv s)
    (hf : ∀ f ∈ fields, among f) : Leads inv stands s (compileAll ask fields)
      fun names s' => List.Forall₂ (stands s') fields names := by
  cases fields with
  | nil => exact .pure hs .nil
  | cons f rest =>
    obtain ⟨hfirst, hrest⟩ := List.forall_mem_cons.1 hf
    refine .bind (compileField_leads answers closed f s hs hfirst) fun name s' hs' _ hname => ?_
    refine .bind (compileAll_leads answers closed rest s' hs' hrest) ?_
    intro names s'' hs'' later h
    exact .pure hs'' (.cons (later _ _ hname) h)

end

end Compilation

section View

variable {σ τ : Type} (view : σ → τ)

/-- From a state and from what can be seen of it, two runs end alike. -/
def Follows {α : Type} (x : Emit σ α) (y : Emit τ α) : Prop :=
  ∀ s, y.run (view s) = ((x.run s).1, view (x.run s).2)

variable {view}

theorem Follows.bind {α β : Type} {x : Emit σ α} {y : Emit τ α} {k : α → Emit σ β}
    {l : α → Emit τ β} (hx : Follows view x y) (hk : ∀ a, Follows view (k a) (l a)) :
    Follows view (x >>= k) (y >>= l) := by
  intro s
  rw [run_bind, run_bind, hx s]
  rcases x.run s with ⟨e | a, s'⟩
  · rfl
  · exact hk a s'

theorem Follows.pure {α : Type} (a : α) :
    Follows view (Pure.pure a : Emit σ α) (Pure.pure a) := fun _ => rfl

theorem Follows.lift {α : Type} (e : Except GrammarError α) :
    Follows view (ExceptT.mk (Pure.pure e) : Emit σ α) (ExceptT.mk (Pure.pure e)) := fun _ => rfl

variable {ask : Field → Production → σ → String × σ} {ask' : Field → Production → τ → String × τ}

mutual

/-- A compilation does no more than its requests do. -/
theorem compileField_follows (h : ∀ f p, Follows view (emit ask f p) (emit ask' f p))
    (f : Field) : Follows view (compileField ask f) (compileField ask' f) := by
  cases f with
  | real | string | boolean | template => exact h _ _
  | integer | constant | choice => exact .bind (.lift _) fun _ => h _ _
  | object label fields => exact .bind (compileMembers_follows h fields) fun _ => h _ _
  | variant label alternatives => exact .bind (compileAll_follows h alternatives) fun _ => h _ _
  | array label element => exact .bind (compileField_follows h element) fun _ => h _ _
  | optional label inner => exact .bind (compileField_follows h inner) fun _ => h _ _

theorem compileMembers_follows (h : ∀ f p, Follows view (emit ask f p) (emit ask' f p))
    (fields : List Field) :
    Follows view (compileMembers ask fields) (compileMembers ask' fields) := by
  cases fields with
  | nil => exact .pure _
  | cons f rest =>
    cases f with
    | optional label inner =>
      exact .bind (compileField_follows h inner) fun _ =>
        .bind (compileMembers_follows h rest) fun _ => .pure _
    | _ =>
      exact .bind (compileField_follows h _) fun _ =>
        .bind (compileMembers_follows h rest) fun _ => .pure _

theorem compileAll_follows (h : ∀ f p, Follows view (emit ask f p) (emit ask' f p))
    (fields : List Field) : Follows view (compileAll ask fields) (compileAll ask' fields) := by
  cases fields with
  | nil => exact .pure _
  | cons f rest =>
    exact .bind (compileField_follows h f) fun _ =>
      .bind (compileAll_follows h rest) fun _ => .pure _

end

end View

end FieldSchema.Grammar
