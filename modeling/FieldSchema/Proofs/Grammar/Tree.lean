import FieldSchema.Proofs.Grammar.Derivation
import Mathlib.Logic.Equiv.Basic
import Mathlib.Logic.Equiv.Sum

/-! Derivations as data. A derivation of a sequence follows its items, one of a production says
which alternative it takes, by place, so two derivations of one text differ wherever they take
different ways to it. The derivations of what is put together pair off with those of its parts. -/
namespace FieldSchema.Grammar

section Trees

variable (rules : List (String × Production))

mutual

/-- A derivation of a sequence, item by item. -/
inductive Derivation : Sequence → Type where
  | nil : Derivation []
  | text {rest : Sequence} (s : String) : Derivation rest → Derivation (.text s :: rest)
  | oneOf {inside : Bool} {ranges : List (Char × Char)} {rest : Sequence} (c : Char) :
    inClass inside ranges c → Derivation rest → Derivation (.oneOf inside ranges :: rest)
  | ref {name : String} {p : Production} {rest : Sequence} : rules.lookup name = some p →
    Choice p → Derivation rest → Derivation (.ref name :: rest)
  | group {p : Production} {rest : Sequence} : Choice p → Derivation rest →
    Derivation (.group p :: rest)
  | skip {p : Production} {rest : Sequence} : Derivation rest → Derivation (.optional p :: rest)
  | take {p : Production} {rest : Sequence} : Choice p → Derivation rest →
    Derivation (.optional p :: rest)

/-- A derivation of a production: one of its alternatives, told by its place, with a derivation. -/
inductive Choice : Production → Type where
  | here {s : Sequence} {p : Production} : Derivation s → Choice (s :: p)
  | there {s : Sequence} {p : Production} : Choice p → Choice (s :: p)

end

end Trees

variable {rules : List (String × Production)} {s t : Sequence} {p q : Production}

section Words

mutual

/-- The text that is derived. -/
def Derivation.word : {s : Sequence} → Derivation rules s → List Char
  | _, .nil => []
  | _, .text s d => s.toList ++ d.word
  | _, .oneOf c _ d => c :: d.word
  | _, .ref _ c d => c.word ++ d.word
  | _, .group c d => c.word ++ d.word
  | _, .skip d => d.word
  | _, .take c d => c.word ++ d.word

def Choice.word : {p : Production} → Choice rules p → List Char
  | _, .here d => d.word
  | _, .there c => c.word

end

mutual

theorem Derivation.derives : {s : Sequence} → (d : Derivation rules s) →
    Derives rules (fun _ _ => True) s d.word
  | _, .nil => .nil
  | _, .text _ d => .text d.derives
  | _, .oneOf _ hc d => .oneOf hc d.derives
  | _, .ref hp c d =>
    have ⟨_, hs, h⟩ := c.produces
    .ref hp hs h trivial d.derives
  | _, .group c d =>
    have ⟨_, hs, h⟩ := c.produces
    .group hs h d.derives
  | _, .skip d => .skip d.derives
  | _, .take c d =>
    have ⟨_, hs, h⟩ := c.produces
    .take hs h d.derives

theorem Choice.produces : {p : Production} → (c : Choice rules p) →
    Produces rules (fun _ _ => True) p c.word
  | _, .here d => ⟨_, List.mem_cons_self, d.derives⟩
  | _, .there c =>
    have ⟨s, hs, h⟩ := c.produces
    ⟨s, List.mem_cons_of_mem _ hs, h⟩

end

theorem exists_choice_of_mem (hs : s ∈ p) (d : Derivation rules s) :
    ∃ c : Choice rules p, c.word = d.word := by
  induction hs with
  | head rest => exact ⟨.here d, rfl⟩
  | tail first _ ih =>
    obtain ⟨c, hc⟩ := ih
    exact ⟨.there c, hc⟩

theorem exists_derivation {w : List Char} {admits : String → List Char → Prop}
    (h : Derives rules admits s w) : ∃ d : Derivation rules s, d.word = w := by
  induction h with
  | nil => exact ⟨.nil, rfl⟩
  | text _ ih =>
    obtain ⟨d, rfl⟩ := ih
    exact ⟨.text _ d, rfl⟩
  | oneOf hc _ ih =>
    obtain ⟨d, rfl⟩ := ih
    exact ⟨.oneOf _ hc d, rfl⟩
  | ref hp hs _ _ _ ih₁ ih₂ =>
    obtain ⟨a, rfl⟩ := ih₁
    obtain ⟨d, rfl⟩ := ih₂
    obtain ⟨c, hc⟩ := exists_choice_of_mem hs a
    exact ⟨.ref hp c d, by rw [Derivation.word, hc]⟩
  | group hs _ _ ih₁ ih₂ =>
    obtain ⟨a, rfl⟩ := ih₁
    obtain ⟨d, rfl⟩ := ih₂
    obtain ⟨c, hc⟩ := exists_choice_of_mem hs a
    exact ⟨.group c d, by rw [Derivation.word, hc]⟩
  | skip _ ih =>
    obtain ⟨d, rfl⟩ := ih
    exact ⟨.skip d, rfl⟩
  | take hs _ _ ih₁ ih₂ =>
    obtain ⟨a, rfl⟩ := ih₁
    obtain ⟨d, rfl⟩ := ih₂
    obtain ⟨c, hc⟩ := exists_choice_of_mem hs a
    exact ⟨.take c d, by rw [Derivation.word, hc]⟩

/-- A text is derived exactly if it has a derivation. -/
theorem exists_derivation_iff {w : List Char} :
    (∃ d : Derivation rules s, d.word = w) ↔ Derives rules (fun _ _ => True) s w := by
  constructor
  · rintro ⟨d, rfl⟩
    exact d.derives
  · exact exists_derivation

theorem exists_choice_iff {w : List Char} :
    (∃ c : Choice rules p, c.word = w) ↔ Produces rules (fun _ _ => True) p w := by
  constructor
  · rintro ⟨c, rfl⟩
    exact c.produces
  · rintro ⟨s, hs, h⟩
    obtain ⟨d, rfl⟩ := exists_derivation h
    exact exists_choice_of_mem hs d

end Words

section Matching

/-- Two families of words, or of anything else, that become one by pairing off their members. -/
def Matched {α β γ : Type} (f : α → γ) (g : β → γ) : Prop := ∃ e : α ≃ β, ∀ a, g (e a) = f a

namespace Matched

section Families

variable {α β γ δ ε : Type} {f : α → γ} {g : β → γ}

theorem refl (f : α → γ) : Matched f f := ⟨.refl α, fun _ => rfl⟩

theorem trans {h : δ → γ} : Matched f g → Matched g h → Matched f h
  | ⟨e, he⟩, ⟨e', he'⟩ => ⟨e.trans e', fun a => (he' (e a)).trans (he a)⟩

theorem symm : Matched f g → Matched g f
  | ⟨e, he⟩ => ⟨e.symm, fun b => by rw [← he, e.apply_symm_apply]⟩

theorem map (k : γ → δ) : Matched f g → Matched (fun a => k (f a)) fun b => k (g b)
  | ⟨e, he⟩ => ⟨e, fun a => congrArg k (he a)⟩

theorem of_eq {f' : α → γ} (same : ∀ a, f a = f' a) : Matched f f' :=
  ⟨.refl α, fun a => (same a).symm⟩

theorem sum {h : δ → γ} {k : ε → γ} :
    Matched f g → Matched h k → Matched (Sum.elim f h) (Sum.elim g k)
  | ⟨e, he⟩, ⟨e', he'⟩ => ⟨e.sumCongr e', by rintro (a | c); exacts [he a, he' c]⟩

theorem sum_assoc (f : α → γ) (g : β → γ) (h : δ → γ) :
    Matched (Sum.elim f (Sum.elim g h)) (Sum.elim (Sum.elim f g) h) :=
  ⟨(Equiv.sumAssoc α β δ).symm, by rintro (a | b | c) <;> rfl⟩

theorem of_isEmpty [IsEmpty α] [IsEmpty β] (f : α → γ) (g : β → γ) :
    Matched f g := ⟨Equiv.equivOfIsEmpty α β, fun a => isEmptyElim a⟩

theorem empty_sum [IsEmpty α] (f : α → γ) (g : β → γ) :
    Matched g (Sum.elim f g) := ⟨(Equiv.emptySum α β).symm, fun _ => rfl⟩

/-- No two members of a family have the same word if those of the other have none. -/
theorem injective : Matched f g → Function.Injective g → Function.Injective f
  | ⟨e, he⟩, hg => fun a b hab => e.injective (hg (by rw [he, he, hab]))

end Families

variable {α β γ δ : Type} {f : α → List Char} {g : β → List Char} {h : γ → List Char}
  {k : δ → List Char}

theorem append : Matched f g → Matched h k →
    Matched (fun x : α × γ => f x.1 ++ h x.2) (fun x : β × δ => g x.1 ++ k x.2)
  | ⟨e, he⟩, ⟨e', he'⟩ => ⟨e.prodCongr e', fun x => congrArg₂ (· ++ ·) (he x.1) (he' x.2)⟩

theorem nil_append (f : α → List Char) : Matched f (fun x : Unit × α => [] ++ f x.2) :=
  ⟨(Equiv.punitProd α).symm, fun _ => rfl⟩

theorem append_assoc (f : α → List Char) (g : β → List Char) (h : γ → List Char) :
    Matched (fun x : α × β × γ => f x.1 ++ (g x.2.1 ++ h x.2.2))
      (fun x : (α × β) × γ => (f x.1.1 ++ g x.1.2) ++ h x.2) :=
  ⟨(Equiv.prodAssoc α β γ).symm, fun _ => List.append_assoc _ _ _⟩

theorem append_sum (f : α → List Char) (g : β → List Char) (h : γ → List Char) :
    Matched (Sum.elim (fun x : α × β => f x.1 ++ g x.2) (fun x : α × γ => f x.1 ++ h x.2))
      (fun x : α × (β ⊕ γ) => f x.1 ++ Sum.elim g h x.2) :=
  ⟨(Equiv.prodSumDistrib α β γ).symm, by rintro (a | b) <;> rfl⟩

theorem option_append (f : α → List Char) (g : β → List Char) :
    Matched (fun x : Option α × β => x.1.elim [] f ++ g x.2)
      (Sum.elim (fun x : α × β => f x.1 ++ g x.2) g) := by
  refine ⟨⟨fun | (some a, b) => .inl (a, b) | (none, b) => .inr b,
    Sum.elim (fun x => (some x.1, x.2)) (none, ·), ?_, ?_⟩, ?_⟩
  · rintro ⟨_ | a, b⟩ <;> rfl
  · rintro (⟨a, b⟩ | b) <;> rfl
  · rintro ⟨_ | a, b⟩ <;> rfl

theorem option_of_isEmpty [IsEmpty α] (f : α → List Char) :
    Matched (fun o : Option α => o.elim [] f) fun _ : Unit => [] := by
  refine ⟨⟨fun _ => (), fun _ => none, ?_, fun _ => rfl⟩, ?_⟩
  · rintro (_ | a)
    exacts [rfl, isEmptyElim a]
  · rintro (_ | a)
    exacts [rfl, isEmptyElim a]

theorem option_sum (f : α → List Char) (g : β → List Char) :
    Matched (fun o : Option (α ⊕ β) => o.elim [] (Sum.elim f g))
      (Sum.elim f fun o : Option β => o.elim [] g) := by
  refine ⟨⟨fun | none => .inr none | some (.inl a) => .inl a | some (.inr b) => .inr (some b),
    Sum.elim (some <| .inl ·) (Option.map .inr), ?_, ?_⟩, ?_⟩
  · rintro (_ | a | b) <;> rfl
  · rintro (a | _ | b) <;> rfl
  · rintro (_ | a | b) <;> rfl

theorem option :
    Matched f g → Matched (fun o : Option α => o.elim [] f) fun o : Option β => o.elim [] g
  | ⟨e, he⟩ => ⟨e.optionCongr, by rintro (_ | a); exacts [rfl, he a]⟩

end Matched

end Matching

section Parts

/-- A derivation of the first item, and one of the others. -/
def Derivation.cons {i : Item} :
    Derivation rules [i] → Derivation rules s → Derivation rules (i :: s)
  | .text x _, d => .text x d
  | .oneOf c hc _, d => .oneOf c hc d
  | .ref hp c _, d => .ref hp c d
  | .group c _, d => .group c d
  | .skip _, d => .skip d
  | .take c _, d => .take c d

def Derivation.uncons {i : Item} :
    Derivation rules (i :: s) → Derivation rules [i] × Derivation rules s
  | .text x d => (.text x .nil, d)
  | .oneOf c hc d => (.oneOf c hc .nil, d)
  | .ref hp c d => (.ref hp c .nil, d)
  | .group c d => (.group c .nil, d)
  | .skip d => (.skip .nil, d)
  | .take c d => (.take c .nil, d)

theorem Derivation.word_uncons {i : Item} (d : Derivation rules (i :: s)) :
    d.uncons.1.word ++ d.uncons.2.word = d.word := by
  cases d <;> simp [uncons, word]

theorem Derivation.eq_nil : ∀ d : Derivation rules [], d = .nil
  | .nil => rfl

/-- A derivation of a sequence is one of its first item and one of the others. -/
def Derivation.split {i : Item} :
    Derivation rules (i :: s) ≃ Derivation rules [i] × Derivation rules s where
  toFun := uncons
  invFun x := x.1.cons x.2
  left_inv d := by cases d <;> rfl
  right_inv := by
    rintro ⟨a, d⟩
    cases a with
    | text x e | oneOf c hc e | ref hp c e | group c e | skip e | take c e =>
      rw [e.eq_nil]
      rfl

def Derivation.spare : Derivation rules [.optional [s]] ≃ Option (Derivation rules s) where
  toFun
    | .skip _ => none
    | .take (.here d) _ => some d
  invFun o := o.elim (.skip .nil) fun d => .take (.here d) .nil
  left_inv
    | .skip .nil => rfl
    | .take (.here _) .nil => rfl
  right_inv
    | none => rfl
    | some _ => rfl

instance : IsEmpty (Choice rules []) := ⟨nofun⟩

variable (rules)

/-- The texts of the derivations of a sequence. -/
def derived (s : Sequence) : Derivation rules s → List Char := Derivation.word

def chosen (p : Production) : Choice rules p → List Char := Choice.word

theorem matched_nil : Matched (derived rules []) fun _ : Unit => [] :=
  ⟨⟨fun _ => (), fun _ => .nil, fun d => d.eq_nil.symm, fun _ => rfl⟩,
    fun d => by rw [d.eq_nil]; rfl⟩

theorem matched_cons (i : Item) (s : Sequence) : Matched (derived rules (i :: s))
    fun x : Derivation rules [i] × Derivation rules s =>
      derived rules [i] x.1 ++ derived rules s x.2 :=
  ⟨Derivation.split, Derivation.word_uncons⟩

theorem matched_append (s t : Sequence) : Matched (derived rules (s ++ t))
    fun x : Derivation rules s × Derivation rules t =>
      derived rules s x.1 ++ derived rules t x.2 := by
  induction s with
  | nil => exact (Matched.nil_append _).trans ((matched_nil rules).symm.append (.refl _))
  | cons i s ih =>
    have split := (matched_cons rules i (s ++ t)).trans ((Matched.refl _).append ih)
    exact split.trans ((Matched.append_assoc _ _ _).trans
      ((matched_cons rules i s).symm.append (.refl _)))

theorem matched_choice (s : Sequence) (p : Production) :
    Matched (chosen rules (s :: p)) (Sum.elim (derived rules s) (chosen rules p)) := by
  refine ⟨⟨fun | .here d => .inl d | .there c => .inr c, Sum.elim .here .there, fun c => ?_,
    fun x => ?_⟩, fun c => ?_⟩
  · cases c <;> rfl
  · cases x <;> rfl
  · cases c <;> rfl

theorem matched_alternatives (p q : Production) :
    Matched (chosen rules (p ++ q)) (Sum.elim (chosen rules p) (chosen rules q)) := by
  induction p with
  | nil => exact .empty_sum _ _
  | cons s p ih =>
    have split := (matched_choice rules s (p ++ q)).trans ((Matched.refl _).sum ih)
    exact split.trans ((Matched.sum_assoc _ _ _).trans
      ((matched_choice rules s p).symm.sum (.refl _)))

theorem matched_front (i : Item) (p : Production) : Matched (chosen rules (p.map (i :: ·)))
    fun x : Derivation rules [i] × Choice rules p =>
      derived rules [i] x.1 ++ chosen rules p x.2 := by
  induction p with
  | nil =>
    have : IsEmpty (Choice rules (List.map (i :: ·) [])) :=
      inferInstanceAs (IsEmpty (Choice rules []))
    exact .of_isEmpty _ _
  | cons s p ih =>
    have split := (matched_choice rules (i :: s) (p.map (i :: ·))).trans
      ((matched_cons rules i s).sum ih)
    exact split.trans ((Matched.append_sum _ _ _).trans
      ((Matched.refl _).append (matched_choice rules s p).symm))

theorem matched_single (s : Sequence) : Matched (chosen rules [s]) (derived rules s) := by
  refine ⟨⟨fun | .here d => d, .here, fun c => ?_, fun _ => rfl⟩, fun c => ?_⟩ <;>
    rcases c with d | c <;> first | rfl | exact isEmptyElim c

theorem matched_optional (p : Production) :
    Matched (derived rules [.optional p]) fun c : Option (Choice rules p) =>
      c.elim [] (chosen rules p) := by
  refine ⟨⟨fun | .skip _ => none | .take c _ => some c,
    fun c => c.elim (.skip .nil) (.take · .nil), fun d => ?_, fun c => ?_⟩, fun d => ?_⟩
  · cases d with
    | skip e | take c e =>
      rw [e.eq_nil]
      rfl
  · cases c <;> rfl
  · cases d with
    | skip e | take c e => simp [e.eq_nil, derived, chosen, Derivation.word]

theorem matched_optional_single {α : Type} {f : α → List Char} {s : Sequence}
    (h : Matched (derived rules s) f) :
    Matched (derived rules [.optional [s]]) fun a : Option α => a.elim [] f :=
  (matched_optional rules [s]).trans ((matched_single rules s).trans h).option

theorem matched_group (p : Production) : Matched (derived rules [.group p]) (chosen rules p) := by
  refine ⟨⟨fun | .group c _ => c, (.group · .nil), fun d => ?_, fun _ => rfl⟩, fun d => ?_⟩
  · cases d with
    | group c e =>
      rw [e.eq_nil]
      rfl
  · cases d with
    | group c e => simp [e.eq_nil, derived, chosen, Derivation.word]

theorem matched_text_cons (x : String) (s : Sequence) : Matched (derived rules (.text x :: s))
    fun d : Derivation rules s => x.toList ++ derived rules s d := by
  refine ⟨⟨fun | .text _ d => d, .text x, fun d => ?_, fun _ => rfl⟩, fun d => ?_⟩ <;>
    cases d <;> rfl

theorem matched_text_last (x : String) (s : Sequence) : Matched (derived rules (s ++ [.text x]))
    fun d : Derivation rules s => derived rules s d ++ x.toList := by
  have last := (matched_text_cons rules x []).trans ((matched_nil rules).map (x.toList ++ ·))
  refine (matched_append rules s [.text x]).trans (((Matched.refl _).append last).trans ?_)
  exact ⟨Equiv.prodPUnit _, fun _ => by simp⟩

end Parts

end FieldSchema.Grammar
