import FieldSchema.Grammar.RuleSet
import FieldSchema.Proofs.Number.Digits
import Mathlib.Data.List.Nodup
import Mathlib.Data.List.Perm.Subperm

/-! Rules by name. A free name is one that no rule has and that is not reserved; a new rule leaves
every earlier one where it was, and what was found once is found again in all later rules. -/
namespace FieldSchema.Grammar.RuleSet

variable {P : Type} {r : RuleSet P} {name : String} {p q : P}

def names (r : RuleSet P) : List String := r.rules.map (·.1)

def lookup (r : RuleSet P) (name : String) : Option P := r.rules.lookup name

@[simp] theorem length_names (r : RuleSet P) : r.names.length = r.size := List.length_map _

@[simp] theorem names_define : (r.define name p).names = r.names ++ [name] := List.map_append

theorem defines_iff : r.defines name ↔ name ∈ r.names := by
  simp [defines, names]

theorem isTaken_iff : r.isTaken name ↔ name ∈ r.names ++ reserved := by
  simp [isTaken, defines_iff]

theorem toList_suffixed (name : String) (n : Nat) :
    (suffixed name n).toList = name.toList ++ '-' :: Nat.toDigits 10 n := by
  simp [suffixed, toString]

theorem suffixed_injective (name : String) : Function.Injective (suffixed name) := by
  intro m n h
  have texts := congrArg String.toList h
  rw [toList_suffixed, toList_suffixed] at texts
  exact toDigits_injective (List.cons.inj (List.append_cancel_left texts)).2

/-- More names than there are rules and reserved names are not all taken. -/
theorem exists_not_isTaken {tries : List String} (distinct : tries.Nodup)
    (many : r.size + reserved.length < tries.length) : ∃ n ∈ tries, ¬ r.isTaken n := by
  by_contra h
  have inside : tries ⊆ r.names ++ reserved := by
    intro n hn
    by_contra hm
    exact h ⟨n, hn, fun ht => hm (isTaken_iff.1 ht)⟩
  have few := (distinct.subperm inside).length_le
  rw [List.length_append, length_names] at few
  omega

/-- Whether a structure may get this name. -/
def Free (r : RuleSet P) (name : String) : Prop := name ∉ r.names ∧ name ∉ reserved

theorem free_iff : r.Free name ↔ ¬ r.isTaken name := by
  rw [isTaken_iff, List.mem_append, not_or, Free]

/-- The preferred name if it is free, or else its variant with the least number from two on that
is. No more names are tried in vain than there are rules and reserved names. -/
inductive FirstFree (r : RuleSet P) (preferred : String) : String → Prop where
  | plain : r.Free preferred → FirstFree r preferred preferred
  | numbered {k : Nat} : ¬ r.Free preferred → 2 ≤ k → r.Free (suffixed preferred k) →
    (∀ j, 2 ≤ j → j < k → ¬ r.Free (suffixed preferred j)) → k ≤ r.size + reserved.length + 1 →
    FirstFree r preferred (suffixed preferred k)

theorem suffixed_ne (name : String) (n : Nat) : suffixed name n ≠ name := by
  intro h
  have lengths := congrArg (fun s => s.toList.length) h
  simp only [toList_suffixed, List.length_append, List.length_cons] at lengths
  omega

theorem exists_suffixed_not_isTaken (r : RuleSet P) {preferred : String}
    (h : r.isTaken preferred) :
    ∃ n < r.size + reserved.length, ¬ r.isTaken (suffixed preferred (n + 2)) := by
  let variants := (List.range (r.size + reserved.length)).map fun n => suffixed preferred (n + 2)
  have distinct : (preferred :: variants).Nodup := by
    refine List.nodup_cons.2 ⟨fun hm => ?_, List.nodup_range.map fun m n hmn => ?_⟩
    · obtain ⟨n, -, hn⟩ := List.mem_map.1 hm
      exact suffixed_ne preferred _ hn
    · exact Nat.add_right_cancel (suffixed_injective preferred hmn)
  obtain ⟨name, hm, free⟩ := exists_not_isTaken (r := r) distinct (by simp [variants])
  rcases List.mem_cons.1 hm with rfl | hm
  · exact absurd h free
  · obtain ⟨n, hn, rfl⟩ := List.mem_map.1 hm
    exact ⟨n, List.mem_range.1 hn, free⟩

theorem firstFree_freeName (r : RuleSet P) (preferred : String) :
    FirstFree r preferred (r.freeName preferred) := by
  unfold freeName
  by_cases h : r.isTaken preferred
  · rw [if_pos h]
    dsimp only
    rw [List.find?_map]
    cases hf : (List.range (r.size + reserved.length)).find?
        ((!r.isTaken ·) ∘ fun n => suffixed preferred (n + 2)) with
    | some n =>
      obtain ⟨free, inside, earlier⟩ := List.find?_range_eq_some.1 hf
      rw [List.mem_range] at inside
      refine .numbered (mt free_iff.1 (not_not.2 h)) (Nat.le_add_left 2 n)
        (free_iff.2 (by simpa using free)) (fun j low high => ?_) (by omega)
      obtain ⟨j, rfl⟩ := Nat.exists_eq_add_of_le' low
      exact mt free_iff.1 (not_not.2 (by simpa using earlier j (by omega)))
    | none =>
      obtain ⟨n, hn, free⟩ := r.exists_suffixed_not_isTaken h
      have taken := List.find?_eq_none.1 hf n (List.mem_range.2 hn)
      exact absurd (by simpa using taken) free
  · rw [if_neg h]
    exact .plain (free_iff.2 h)

/-- A free name is the preferred one or one of its numbered variants, and nothing else has it. -/
theorem freeName_spec (r : RuleSet P) (preferred : String) :
    ¬ r.isTaken (r.freeName preferred) ∧ (r.freeName preferred = preferred ∨
      ∃ n, 2 ≤ n ∧ r.freeName preferred = suffixed preferred n) := by
  have first := r.firstFree_freeName preferred
  generalize r.freeName preferred = name at first ⊢
  cases first with
  | plain free => exact ⟨free_iff.1 free, .inl rfl⟩
  | numbered _ low free => exact ⟨free_iff.1 free, .inr ⟨_, low, rfl⟩⟩

theorem mem_of_lookup (h : r.lookup name = some p) : (name, p) ∈ r.rules := by
  obtain ⟨before, after, hr, -⟩ := List.lookup_eq_some_iff.1 h
  simp [hr]

theorem lookup_of_mem (hn : r.names.Nodup) (h : (name, p) ∈ r.rules) : r.lookup name = some p := by
  obtain ⟨before, after, hr⟩ := List.append_of_mem h
  refine List.lookup_eq_some_iff.2 ⟨before, after, hr, fun q hq => ?_⟩
  rw [names, hr, List.map_append, List.map_cons, List.nodup_append] at hn
  have other := hn.2.2 q.1 (List.mem_map_of_mem hq) name (by simp)
  simpa using other.symm

theorem lookup_define_self (h : ¬ r.defines name) : (r.define name p).lookup name = some p := by
  refine List.lookup_eq_some_iff.2 ⟨r.rules, [], rfl, fun q hq => ?_⟩
  have other : q.1 ≠ name := fun he => h (defines_iff.2 (he ▸ List.mem_map_of_mem hq))
  simpa using other.symm

theorem nodup_define (hn : r.names.Nodup) (h : ¬ r.defines name) :
    (r.define name p).names.Nodup := by
  rw [names_define, List.nodup_append]
  refine ⟨hn, List.nodup_singleton _, fun m hm k hk he => ?_⟩
  rw [List.mem_singleton.1 hk] at he
  exact h (defines_iff.2 (he ▸ hm))

theorem not_defines_freeName (r : RuleSet P) (preferred : String) :
    ¬ r.defines (r.freeName preferred) := by
  intro h
  refine (r.freeName_spec preferred).1 (isTaken_iff.2 ?_)
  exact List.mem_append_left _ (defines_iff.1 h)

theorem lookup_of_nameOf? [DecidableEq P] (hn : r.names.Nodup) (h : r.nameOf? p = some name) :
    r.lookup name = some p := by
  obtain ⟨⟨n, q⟩, hf, rfl⟩ := Option.map_eq_some_iff.1 h
  have same : q = p := by simpa using List.find?_some hf
  have member := List.mem_of_find?_eq_some hf
  rw [same] at member
  exact lookup_of_mem hn member

section Growth

variable {r' : RuleSet P}

/-- All rules of the first come first in the second, in their order. -/
def GrowsTo (r r' : RuleSet P) : Prop := r.rules <+: r'.rules

theorem GrowsTo.refl (r : RuleSet P) : r.GrowsTo r := List.prefix_refl _

theorem GrowsTo.trans {r₁ r₂ r₃ : RuleSet P} (h : r₁.GrowsTo r₂) (h' : r₂.GrowsTo r₃) :
    r₁.GrowsTo r₃ := List.IsPrefix.trans h h'

theorem growsTo_define (r : RuleSet P) (name : String) (p : P) : r.GrowsTo (r.define name p) :=
  List.prefix_append _ _

theorem defines_define (r : RuleSet P) (name : String) (p : P) :
    (r.define name p).defines name := by
  rw [defines_iff, names_define]
  exact List.mem_append_right _ (List.mem_singleton_self _)

theorem GrowsTo.defines (h : r.GrowsTo r') (hd : r.defines name) : r'.defines name := by
  rw [defines_iff] at hd ⊢
  exact (List.IsPrefix.map _ h).subset hd

/-- New rules come after the earlier ones, so those are still found. -/
theorem GrowsTo.lookup (h : r.GrowsTo r') (hp : r.lookup name = some p) :
    r'.lookup name = some p := by
  obtain ⟨more, hr⟩ := h
  obtain ⟨before, after, split, hb⟩ := List.lookup_eq_some_iff.1 hp
  exact List.lookup_eq_some_iff.2 ⟨before, after ++ more, by simp [← hr, split], hb⟩

theorem shared_fst (r : RuleSet P) (name : String) (p : P) : (r.shared name p).1 = name := by
  rw [shared]
  split <;> rfl

theorem defines_shared (r : RuleSet P) (name : String) (p : P) :
    (r.shared name p).2.defines name := by
  rw [shared]
  split
  next known => exact known
  next => exact r.defines_define name p

theorem exists_lookup (h : r.defines name) : ∃ p, r.lookup name = some p := by
  cases found : r.lookup name with
  | some p => exact ⟨p, rfl⟩
  | none =>
    obtain ⟨rule, mem, same⟩ := List.mem_map.1 (defines_iff.1 h)
    exact absurd same.symm (by simpa using List.lookup_eq_none_iff.1 found rule mem)

/-- The name is bound to what it was bound to, or else to the production that was given. -/
theorem lookup_shared (r : RuleSet P) (name : String) (p : P) :
    (r.shared name p).2.lookup name = some ((r.lookup name).getD p) := by
  rw [shared]
  split
  next known =>
    obtain ⟨q, hq⟩ := exists_lookup known
    rw [hq]
    exact hq
  next new =>
    have absent : r.lookup name = none := by
      refine List.lookup_eq_none_iff.2 fun rule mem => ?_
      have other : rule.1 ≠ name :=
        fun same => new (defines_iff.2 (same ▸ List.mem_map_of_mem mem))
      simpa using other.symm
    rw [absent]
    exact lookup_define_self new

variable [DecidableEq P]

/-- After a request for a production its first rule is the one that was given. -/
theorem nameOf?_add (r : RuleSet P) (preferred : String) (p : P) :
    (r.add preferred p).2.nameOf? p = some (r.add preferred p).1 := by
  rw [add]
  cases hn : r.nameOf? p with
  | some name => exact hn
  | none =>
    have absent : r.rules.find? (·.2 = p) = none := Option.map_eq_none_iff.1 hn
    simp [nameOf?, RuleSet.define, List.find?_append, absent]

theorem defines_of_nameOf? (h : r.nameOf? p = some name) : r.defines name := by
  obtain ⟨rule, found, same⟩ := Option.map_eq_some_iff.1 h
  exact defines_iff.2 (same ▸ List.mem_map_of_mem (List.mem_of_find?_eq_some found))

theorem GrowsTo.nameOf? (h : r.GrowsTo r') (hn : r.nameOf? p = some name) :
    r'.nameOf? p = some name := by
  obtain ⟨more, hr⟩ := h
  obtain ⟨rule, found, same⟩ := Option.map_eq_some_iff.1 hn
  rw [RuleSet.nameOf?, ← hr, List.find?_append, found, Option.some_or, Option.map_some, same]

end Growth

end FieldSchema.Grammar.RuleSet
