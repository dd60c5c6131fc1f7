import FieldSchema.Proofs.Grammar.RuleSet
import Mathlib.Data.List.Induction

/-! The rules after any calls, with any names and in any order. A call leaves all rules there are or
puts one behind them, under a name that none of them has; so what the rules say of a name or of a
production they say for good. -/
namespace FieldSchema.Grammar.RuleSet

variable {P : Type} {r r' : RuleSet P} {name : String} {p : P}

/-- A call for a rule that is shared by its name, or for a rule of a production under a name that
is preferred. -/
inductive Query (P : Type) where
  | shared (name : String) (p : P)
  | add (preferred : String) (p : P)

variable {calls : List (Query P)} {call : Query P}

section Calls

/-- What a call does to the rules: an earlier one is the answer, or there is a new one. Only a call
that names it can bring a rule of a reserved name. -/
inductive Effect (r : RuleSet P) (call : Query P) : RuleSet P → Prop where
  | reuse : Effect r call r.reuse
  | define {name : String} {p : P} : ¬ r.defines name →
    (name ∈ reserved → call = .shared name p) → Effect r call (r.define name p)

theorem Effect.growsTo (h : Effect r call r') : r.GrowsTo r' := by
  cases h with
  | reuse => exact .refl r
  | define => exact r.growsTo_define _ _

/-- What is true of the rules after these calls, whatever they were. -/
structure Orderly (calls : List (Query P)) (r : RuleSet P) : Prop where
  distinct : r.names.Nodup
  counted : r.size + r.reused = calls.length
  reserved : ∀ name ∈ Grammar.reserved, name ∈ r.names → ∃ p, .shared name p ∈ calls

theorem orderly_empty : Orderly [] (empty : RuleSet P) :=
  ⟨List.nodup_nil, rfl, fun _ _ h => absurd h List.not_mem_nil⟩

theorem Orderly.step (h : Orderly calls r) (e : Effect r call r') :
    Orderly (calls ++ [call]) r' := by
  have earlier : ∀ name ∈ Grammar.reserved, name ∈ r.names →
      ∃ p, .shared name p ∈ calls ++ [call] := by
    intro name bad hn
    obtain ⟨p, hp⟩ := h.reserved name bad hn
    exact ⟨p, List.mem_append_left _ hp⟩
  have length : (calls ++ [call]).length = r.size + r.reused + 1 := by
    rw [List.length_append, h.counted, List.length_singleton]
  cases e with
  | reuse => exact ⟨h.distinct, length.symm, earlier⟩
  | @define name p new named =>
    refine ⟨nodup_define h.distinct new, ?_, fun n bad hn => ?_⟩
    · rw [length, size_define, Nat.add_right_comm]
      rfl
    · rw [names_define, List.mem_append, List.mem_singleton] at hn
      rcases hn with hn | rfl
      · exact earlier n bad hn
      · exact ⟨p, List.mem_append_right _ (List.mem_singleton.2 (named bad).symm)⟩

variable [DecidableEq P]

def answer (r : RuleSet P) : Query P → String × RuleSet P
  | .shared name p => r.shared name p
  | .add preferred p => r.add preferred p

/-- The rules after some calls, one after the other. -/
def after (r : RuleSet P) (calls : List (Query P)) : RuleSet P :=
  calls.foldl (fun r call => (r.answer call).2) r

theorem after_snoc (r : RuleSet P) (calls : List (Query P)) (call : Query P) :
    r.after (calls ++ [call]) = ((r.after calls).answer call).2 := by
  rw [after, List.foldl_append]
  rfl

theorem effect_answer (r : RuleSet P) (call : Query P) : Effect r call (r.answer call).2 := by
  cases call with
  | shared name p =>
    rw [answer, shared]
    split
    next => exact .reuse
    next new => exact .define new fun _ => rfl
  | add preferred p =>
    rw [answer, add]
    cases r.nameOf? p with
    | some name => exact .reuse
    | none =>
      refine .define (r.not_defines_freeName preferred) fun bad => ?_
      exact absurd (isTaken_iff.2 (List.mem_append_right _ bad)) (r.freeName_spec preferred).1

theorem growsTo_after (r : RuleSet P) (calls : List (Query P)) : r.GrowsTo (r.after calls) := by
  induction calls generalizing r with
  | nil => exact .refl r
  | cons call calls ih => exact (r.effect_answer call).growsTo.trans (ih _)

theorem orderly_after (calls : List (Query P)) : Orderly calls (empty.after calls) := by
  induction calls using List.reverseRecOn with
  | nil => exact orderly_empty
  | append_singleton calls call ih =>
    rw [after_snoc]
    exact ih.step (effect_answer _ call)

end Calls

variable [DecidableEq P]

section Productions

theorem nameOf?_eq_none_iff (h : r.names.Nodup) :
    r.nameOf? p = none ↔ ∀ name, r.lookup name ≠ some p := by
  constructor
  · intro hn name hl
    have none := List.find?_eq_none.1 (Option.map_eq_none_iff.1 hn) _ (mem_of_lookup hl)
    exact none (by simp)
  · intro none
    cases hn : r.nameOf? p with
    | none => rfl
    | some name => exact absurd (lookup_of_nameOf? h hn) (none name)

/-- The answer to a call for a production: the rule that has it, or else a new one under the first
name that is free. -/
theorem add_cases (h : r.names.Nodup) (preferred : String) (p : P) :
    let (name, r') := r.add preferred p
    r.lookup name = some p ∧ r' = r.reuse ∨
      (∀ other, r.lookup other ≠ some p) ∧ r' = r.define name p ∧ FirstFree r preferred name := by
  rw [add]
  cases hn : r.nameOf? p with
  | some name => exact .inl ⟨lookup_of_nameOf? h hn, rfl⟩
  | none => exact .inr ⟨(nameOf?_eq_none_iff h).1 hn, rfl, r.firstFree_freeName preferred⟩

theorem lookup_add (h : r.names.Nodup) (preferred : String) (p : P) :
    (r.add preferred p).2.lookup (r.add preferred p).1 = some p := by
  rw [add]
  cases hn : r.nameOf? p with
  | some name => exact lookup_of_nameOf? h hn
  | none => exact lookup_define_self (r.not_defines_freeName preferred)

theorem add_of_nameOf? (h : r.nameOf? p = some name) (preferred : String) :
    r.add preferred p = (name, r.reuse) := by
  rw [add, h]

end Productions

/-- The rules after any calls. Their names are distinct, there is a rule or a reuse for each call,
and only a call for a shared rule brings a reserved name. Further calls put lines behind those there
are and change none. A call to add a production gets the name of a rule that has it, or else the
first free name for a new one, which stays the name of that production whatever is called later, and
is the answer to every later call to add it. A call for a shared rule gets the name that it asks
for, and it stays bound to what it was bound to, or else to the production of the call. -/
theorem rules_after_calls (calls : List (Query P)) :
    let r := empty.after calls
    Orderly calls r ∧
    (∀ more, (∀ render, r.lines render <+: (r.after more).lines render) ∧
      ∀ name p, r.lookup name = some p → (r.after more).lookup name = some p) ∧
    (∀ preferred p,
      let (name, r') := r.add preferred p
      (r.lookup name = some p ∧ r' = r.reuse ∨
        (∀ other, r.lookup other ≠ some p) ∧ r' = r.define name p ∧
          FirstFree r preferred name) ∧
      ∀ more, (r'.after more).lookup name = some p ∧
        ∀ other, (r'.after more).add other p = (name, (r'.after more).reuse)) ∧
    ∀ name p,
      let (answer, r') := r.shared name p
      answer = name ∧ ∀ more, (r'.after more).lookup name = some ((r.lookup name).getD p) := by
  have orderly := orderly_after calls
  generalize empty.after calls = r at orderly
  refine ⟨orderly, fun more => ⟨fun render => ?_, fun name p => ?_⟩, fun preferred p => ⟨?_, ?_⟩,
    fun name p => ⟨r.shared_fst name p, fun more => ?_⟩⟩
  · exact List.IsPrefix.map _ (r.growsTo_after more)
  · exact (r.growsTo_after more).lookup
  · exact add_cases orderly.distinct preferred p
  · intro more
    have later := growsTo_after (r.add preferred p).2 more
    exact ⟨later.lookup (lookup_add orderly.distinct preferred p), fun other =>
      add_of_nameOf? (later.nameOf? (r.nameOf?_add preferred p)) other⟩
  · exact (growsTo_after _ more).lookup (r.lookup_shared name p)

/-- Names that others could be suffixed to, taken beforehand. -/
example : (empty.after [.add "a" 0, .shared "a-2" 1, .add "a" 2, .add "root" 3, .add "b" 1,
    .shared "root" 2]).rules = [("a", 0), ("a-2", 1), ("a-3", 2), ("root-2", 3), ("root", 2)] := by
  decide +kernel

end FieldSchema.Grammar.RuleSet
