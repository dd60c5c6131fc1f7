import FieldSchema.Proofs.Grammar.Language
import FieldSchema.Proofs.Grammar.RuleSet

/-! The rules of a compilation. Every name is defined once and says where its rule comes from, so a
request is always answered with a rule of the very production that was asked for. From there the
rules of a whole compilation derive the texts of its field. -/
namespace FieldSchema.Grammar

/-- Every name is defined once, and the shared names have the productions they are named after. -/
structure Sound (r : Rules) : Prop where
  nodup : r.names.Nodup
  origin : ∀ name p, r.lookup name = some p →
    (∃ s : SharedRule, name = s.name ∧ p = s.production) ∨ StructureName name

/-- Rules that are still found in later ones. -/
def Extends (rules rules' : List (String × Production)) : Prop :=
  ∀ name p, rules.lookup name = some p → rules'.lookup name = some p

theorem Extends.trans {a b c : List (String × Production)} (h : Extends a b) (h' : Extends b c) :
    Extends a c := fun name p hp => h' name p (h name p hp)

theorem sound_empty : Sound .empty := ⟨List.nodup_nil, fun _ _ h => absurd h (by nofun)⟩

namespace Sound

variable {r : Rules} {p : Production} {name : String}

theorem lookup_shared (h : Sound r) (s : SharedRule) (hd : r.defines s.name) :
    r.lookup s.name = some s.production := by
  obtain ⟨⟨n, q⟩, hm, hn⟩ := List.mem_map.1 (RuleSet.defines_iff.1 hd)
  have found := RuleSet.lookup_of_mem h.nodup hm
  dsimp only at hn
  rw [hn] at found
  rcases h.origin _ _ found with ⟨t, ht, hq⟩ | hs
  · rw [found, hq, SharedRule.name_injective ht]
  · exact absurd rfl (hs.ne_shared s)

theorem reuse (h : Sound r) : Sound r.reuse := ⟨h.nodup, h.origin⟩

theorem define (h : Sound r) (hd : ¬ r.defines name)
    (ho : (∃ s : SharedRule, name = s.name ∧ p = s.production) ∨ StructureName name) :
    Sound (r.define name p) := by
  refine ⟨RuleSet.nodup_define h.nodup hd, fun n q hq => ?_⟩
  have member := RuleSet.mem_of_lookup hq
  rw [RuleSet.define, List.mem_append] at member
  rcases member with hm | hm
  · exact h.origin n q (RuleSet.lookup_of_mem h.nodup hm)
  · obtain ⟨rfl, rfl⟩ := Prod.mk.inj (List.mem_singleton.1 hm)
    exact ho

end Sound

theorem extends_define {r : Rules} (name : String) (p : Production) :
    Extends r.rules (r.define name p).rules :=
  fun _ _ => (r.growsTo_define name p).lookup

theorem structureName_freeName (r : Rules) (s : String) :
    StructureName (r.freeName (ruleName s)) := by
  obtain ⟨free, shape⟩ := r.freeName_spec (ruleName s)
  rcases shape with h | ⟨n, hn, h⟩
  · refine .inl ⟨s, h, fun hm => free (RuleSet.isTaken_iff.2 ?_)⟩
    exact List.mem_append_right _ hm
  · exact .inr ⟨s, n, hn, h⟩

/-- What a field may ask for: its shared production, or one that is not for numbers with a point. -/
def Askable (f : Field) (p : Production) : Prop :=
  match f.sharedRule? with
  | some s => p = s.production
  | none => ∀ b, p ≠ decimalRange b

theorem decimalRange_eq (b : Bounds Finite64) : ∃ s, decimalRange b = [s] ∧ 2 ≤ s.length := by
  refine ⟨_, rfl, ?_⟩
  have digits : 1 ≤ (between anyDigit 1 fractionDigits).length := by decide
  rw [List.length_append, List.length_cons]
  omega

theorem startsNumber_fixedPoint (d : FixedPoint) : StartsNumber d.text := by
  unfold FixedPoint.text
  cases d.negative with
  | true => exact ⟨'-', _, rfl, .inl rfl⟩
  | false => exact startsNumber_append (startsNumber_toDigits _) _

theorem not_produces_of_front {rules : List (String × Production)}
    {admits : String → List Char → Prop} {c : Char} {s : String} {t : Sequence} {w : List Char}
    (hw : StartsNumber w) (hs : s.toList.head? = some c) (hc : c ≠ '-')
    (hd : c.isDigit = false) : ¬ Produces rules admits [.text s :: t] w := by
  rw [produces_singleton, derives_text_cons]
  rintro ⟨v, rfl, -⟩
  refine hw.head?_ne hc hd ?_
  rw [List.head?_append, hs, Option.some_or]

theorem ne_decimalRange_of_front {c : Char} {s : String} {t : Sequence} (b : Bounds Finite64)
    (hs : s.toList.head? = some c) (hc : c ≠ '-') (hd : c.isDigit = false) :
    [.text s :: t] ≠ decimalRange b := by
  intro h
  obtain ⟨negative, fits⟩ := FixedPoint.exists_ofWhole_fits b
  have derived : Produces [] (fun _ _ => True) (decimalRange b) _ :=
    produces_decimalRange.2 ⟨_, fits, rfl⟩
  rw [← h] at derived
  exact not_produces_of_front (startsNumber_fixedPoint _) hs hc hd derived

theorem ne_decimalRange_of_short {p : Production} (b : Bounds Finite64)
    (h : ∀ s ∈ p, s.length = 1) : p ≠ decimalRange b := by
  intro he
  obtain ⟨s, hs, hl⟩ := decimalRange_eq b
  have := h s (by simp [he, hs])
  omega

theorem Asks.askable {stands : Field → String → Prop} {f : Field} {p : Production}
    (h : Asks stands f p) : Askable f p := by
  cases h with
  | integer | real | string | boolean => exact rfl
  | constant => exact fun b => ne_decimalRange_of_short b (by simp)
  | choice => exact fun b => ne_decimalRange_of_short b (by simp)
  | template => exact fun b => ne_decimalRange_of_front (c := '"') b (by simp) (by decide) rfl
  | object => exact fun b => ne_decimalRange_of_front (c := '\x7b') b (by simp) (by decide) rfl
  | variant => exact fun b => ne_decimalRange_of_short b (by simp)
  | array => exact fun b => ne_decimalRange_of_front (c := '[') b (by simp) (by decide) rfl
  | optional =>
    intro b he
    obtain ⟨s, hs, -⟩ := decimalRange_eq b
    simp [hs] at he

/-- What a request can do: it finds a rule, or it defines one under the shared name of the field or
under a free one. -/
inductive Answered (f : Field) (p : Production) (r : Rules) : String × Rules → Prop where
  | known {s : SharedRule} : f.sharedRule? = some s → r.defines s.name →
    Answered f p r (s.name, r.reuse)
  | shared {s : SharedRule} : f.sharedRule? = some s → ¬ r.defines s.name →
    Answered f p r (s.name, r.define s.name p)
  | found {name : String} : f.sharedRule? = none → r.nameOf? p = some name →
    Answered f p r (name, r.reuse)
  | fresh : f.sharedRule? = none → r.nameOf? p = none →
    Answered f p r (r.freeName (ruleName f.name), r.define (r.freeName (ruleName f.name)) p)

theorem answered_request (f : Field) (p : Production) (r : Rules) :
    Answered f p r (Rules.request f p r) := by
  unfold Rules.request
  rw [f.sharedName?_eq]
  cases hs : f.sharedRule? with
  | some s =>
    dsimp only [Option.map_some, RuleSet.shared]
    by_cases hd : r.defines s.name
    · rw [if_pos hd]
      exact .known hs hd
    · rw [if_neg hd]
      exact .shared hs hd
  | none =>
    dsimp only [Option.map_none, RuleSet.add]
    cases hn : r.nameOf? p with
    | some name => exact .found hs hn
    | none => exact .fresh hs hn

theorem SharedRule.name_eq_realName_iff (s : SharedRule) {b : Bounds Finite64} :
    s.name = realName b ↔ some s = some (.real b) := by
  have name : realName b = (SharedRule.real b).name := rfl
  rw [Option.some.injEq, name, SharedRule.name_injective.eq_iff]

/-- The answer to a request: a rule of this production, under a name that only a field of these
bounds has if it is the name of bounds. -/
theorem request_spec {r : Rules} (h : Sound r) {f : Field} {p : Production} (hp : Askable f p) :
    Sound (Rules.request f p r).2 ∧ Extends r.rules (Rules.request f p r).2.rules ∧
      (Rules.request f p r).2.lookup (Rules.request f p r).1 = some p ∧
      ∀ b, (Rules.request f p r).1 = realName b ↔ f.sharedRule? = some (.real b) := by
  have answer := answered_request f p r
  generalize Rules.request f p r = answered at answer ⊢
  unfold Askable at hp
  cases answer with
  | @known s hs hd =>
    rw [hs] at hp ⊢
    obtain rfl := hp
    exact ⟨h.reuse, fun _ _ h => h, h.lookup_shared s hd, fun _ => s.name_eq_realName_iff⟩
  | @shared s hs hd =>
    rw [hs] at hp ⊢
    obtain rfl := hp
    exact ⟨h.define hd (.inl ⟨s, rfl, rfl⟩), extends_define _ _, RuleSet.lookup_define_self hd,
      fun _ => s.name_eq_realName_iff⟩
  | @found name hs hn =>
    rw [hs] at hp ⊢
    have found := RuleSet.lookup_of_nameOf? h.nodup hn
    refine ⟨h.reuse, fun _ _ h => h, found, fun b => iff_of_false (fun he => ?_) nofun⟩
    rcases h.origin _ _ found with ⟨s, hname, hq⟩ | hstructure
    · obtain rfl : s = .real b := SharedRule.name_injective (hname.symm.trans he)
      exact hp b hq
    · exact hstructure.ne_shared (.real b) he
  | fresh hs hn =>
    rw [hs]
    have free := r.not_defines_freeName (ruleName f.name)
    have structured := structureName_freeName r f.name
    exact ⟨h.define free (.inr structured), extends_define _ _, RuleSet.lookup_define_self free,
      fun b => iff_of_false (structured.ne_shared (.real b)) nofun⟩

section Compilation

variable (real : Bounds Finite64 → List Char → Prop)

/-- The rule of two bounds may produce only what `real` allows between these bounds. -/
def admitsReal (name : String) (w : List Char) : Prop := ∀ b, name = realName b → real b w

/-- Wherever the rules so far are found, the name derives the texts of the field. -/
def Stands (r : Rules) (f : Field) (name : String) : Prop :=
  ∀ rules, Extends r.rules rules → ∀ w,
    Derives rules (admitsReal real) [.ref name] w ↔ Language real f w

theorem answers_request :
    Answers Rules.request (fun _ => True) Sound (Stands real) := by
  intro r f p hr _ hp
  obtain ⟨sound, more, found, bounds⟩ := request_spec hr hp.askable
  refine ⟨sound, fun g name hg rules hrules => hg rules (more.trans hrules), ?_⟩
  intro rules hrules w
  have below : ∀ g name, Stands real r g name → ∀ u,
      Derives rules (admitsReal real) [.ref name] u ↔ Language real g u :=
    fun g name hg => hg rules (more.trans hrules)
  rw [derives_ref, ← produces_asks below hp]
  constructor
  · intro ⟨q, hq, hw, ha⟩
    rw [hrules _ _ found] at hq
    obtain rfl := Option.some.inj hq
    exact ⟨hw, fun b hb => ha b ((bounds b).2 hb)⟩
  · intro ⟨hw, ha⟩
    exact ⟨p, hrules _ _ found, hw, fun b hb => ha b ((bounds b).1 hb)⟩

theorem grammar_leads (f : Field) : Leads Sound (Stands real) .empty
    (compileField Rules.request f) fun name r => Stands real r f name :=
  compileField_leads (answers_request real) (fun _ _ _ _ => trivial) f .empty sound_empty trivial

end Compilation

end FieldSchema.Grammar
