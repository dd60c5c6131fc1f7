import FieldSchema.Proofs.Grammar.Tree
import Mathlib.Data.List.Basic

/-! What the patterns for repeated items derive: a number of words between two bounds, one after the
other. A derivation of the pattern is nothing but a derivation of each of the words. -/
namespace FieldSchema.Grammar

variable {rules : List (String × Production)} {admits : String → List Char → Prop}
  {i : Item} {w : List Char}

theorem derives_replicate {k : Nat} : Derives rules admits (List.replicate k i) w ↔
    ∃ ws : List (List Char), ws.length = k ∧ (∀ u ∈ ws, Derives rules admits [i] u) ∧
      w = ws.flatten := by
  induction k generalizing w with
  | zero =>
    rw [List.replicate_zero, derives_nil]
    constructor
    · rintro rfl
      exact ⟨[], rfl, by simp, rfl⟩
    · rintro ⟨ws, hl, -, rfl⟩
      rw [List.length_eq_zero_iff.1 hl, List.flatten_nil]
  | succ k ih =>
    rw [List.replicate_succ, derives_cons]
    constructor
    · rintro ⟨u, v, rfl, hu, hv⟩
      obtain ⟨ws, rfl, hws, rfl⟩ := ih.1 hv
      exact ⟨u :: ws, rfl, List.forall_mem_cons.2 ⟨hu, hws⟩, rfl⟩
    · rintro ⟨ws, hl, hws, rfl⟩
      obtain ⟨u, us, rfl⟩ := List.exists_cons_of_length_eq_add_one hl
      obtain ⟨hu, hus⟩ := List.forall_mem_cons.1 hws
      exact ⟨u, us.flatten, rfl, hu, ih.2 ⟨us, Nat.succ.inj hl, hus, rfl⟩⟩

theorem derives_nested {k : Nat} : Derives rules admits (nested i k) w ↔
    ∃ ws : List (List Char), ws.length ≤ k ∧ (∀ u ∈ ws, Derives rules admits [i] u) ∧
      w = ws.flatten := by
  induction k generalizing w with
  | zero =>
    rw [nested, derives_nil]
    constructor
    · rintro rfl
      exact ⟨[], Nat.le_refl _, by simp, rfl⟩
    · rintro ⟨ws, hl, -, rfl⟩
      rw [List.length_eq_zero_iff.1 (Nat.le_zero.1 hl), List.flatten_nil]
  | succ k ih =>
    rw [nested, derives_optional, produces_singleton, derives_cons]
    constructor
    · rintro (rfl | ⟨u, v, rfl, hu, hv⟩)
      · exact ⟨[], Nat.zero_le _, by simp, rfl⟩
      · obtain ⟨ws, hl, hws, rfl⟩ := ih.1 hv
        exact ⟨u :: ws, Nat.succ_le_succ hl, List.forall_mem_cons.2 ⟨hu, hws⟩, rfl⟩
    · rintro ⟨ws, hl, hws, rfl⟩
      cases ws with
      | nil => exact .inl rfl
      | cons u us =>
        obtain ⟨hu, hus⟩ := List.forall_mem_cons.1 hws
        exact .inr ⟨u, us.flatten, rfl, hu, ih.2 ⟨us, Nat.le_of_succ_le_succ hl, hus, rfl⟩⟩

theorem between_eq (i : Item) (low high : Nat) :
    between i low high = List.replicate low i ++ nested i (high - low) := by
  rw [between, Int.toNat_natCast, Int.toNat_sub]

theorem derives_between {low high : Nat} (h : low ≤ high) :
    Derives rules admits (between i low high) w ↔
      ∃ ws : List (List Char), low ≤ ws.length ∧ ws.length ≤ high ∧
        (∀ u ∈ ws, Derives rules admits [i] u) ∧ w = ws.flatten := by
  rw [between_eq, derives_append]
  constructor
  · rintro ⟨u, v, rfl, hu, hv⟩
    obtain ⟨us, hl, hus, rfl⟩ := derives_replicate.1 hu
    obtain ⟨vs, hm, hvs, rfl⟩ := derives_nested.1 hv
    refine ⟨us ++ vs, ?_, ?_, List.forall_mem_append.2 ⟨hus, hvs⟩, List.flatten_append.symm⟩ <;>
      rw [List.length_append] <;> omega
  · rintro ⟨ws, hl, hm, hws, rfl⟩
    refine ⟨(ws.take low).flatten, (ws.drop low).flatten, ?_, ?_, ?_⟩
    · rw [← List.flatten_append, List.take_append_drop]
    · exact derives_replicate.2 ⟨_, List.length_take_of_le hl,
        fun u hu => hws u (List.mem_of_mem_take hu), rfl⟩
    · refine derives_nested.2 ⟨_, ?_, fun u hu => hws u (List.mem_of_mem_drop hu), rfl⟩
      rw [List.length_drop]
      omega

theorem flatten_map_singleton (s : List Char) : (s.map ([·])).flatten = s := by
  induction s with
  | nil => rfl
  | cons c s ih => rw [List.map_cons, List.flatten_cons, ih, List.singleton_append]

theorem exists_eq_map_singleton {P : Char → Prop} {ws : List (List Char)}
    (h : ∀ u ∈ ws, ∃ c, P c ∧ u = [c]) : ∃ s : List Char, ws = s.map ([·]) ∧ ∀ c ∈ s, P c := by
  induction ws with
  | nil => exact ⟨[], rfl, by simp⟩
  | cons u ws ih =>
    obtain ⟨⟨c, hc, rfl⟩, hws⟩ := List.forall_mem_cons.1 h
    obtain ⟨s, rfl, hs⟩ := ih hws
    exact ⟨c :: s, rfl, List.forall_mem_cons.2 ⟨hc, hs⟩⟩

/-- Where every word is one character, the number of words is the length of the text. -/
theorem derives_between_chars {P : Char → Prop} {low high : Nat} (h : low ≤ high)
    (hi : ∀ u, Derives rules admits [i] u ↔ ∃ c, P c ∧ u = [c]) :
    Derives rules admits (between i low high) w ↔
      low ≤ w.length ∧ w.length ≤ high ∧ ∀ c ∈ w, P c := by
  rw [derives_between h]
  constructor
  · rintro ⟨ws, hl, hm, hws, rfl⟩
    obtain ⟨s, rfl, hs⟩ := exists_eq_map_singleton fun u hu => (hi u).1 (hws u hu)
    rw [List.length_map] at hl hm
    rw [flatten_map_singleton]
    exact ⟨hl, hm, hs⟩
  · rintro ⟨hl, hm, hw⟩
    refine ⟨w.map ([·]), by simpa using hl, by simpa using hm, ?_, (flatten_map_singleton w).symm⟩
    intro u hu
    obtain ⟨c, hc, rfl⟩ := List.mem_map.1 hu
    exact (hi _).2 ⟨c, hw c hc, rfl⟩

section Rows

abbrev Row (α : Type) (low high : Nat) := {as : List α // low ≤ as.length ∧ as.length ≤ high}

namespace Row

variable {α : Type} {low high : Nat}

def word (f : α → List Char) (row : Row α low high) : List Char := row.1.flatMap f

def cons : α × Row α low high ≃ Row α (low + 1) (high + 1) where
  toFun x := ⟨x.1 :: x.2.1, Nat.succ_le_succ x.2.2.1, Nat.succ_le_succ x.2.2.2⟩
  invFun
    | ⟨[], h⟩ => absurd h.1 (Nat.not_succ_le_zero low)
    | ⟨a :: as, h⟩ => (a, ⟨as, Nat.le_of_succ_le_succ h.1, Nat.le_of_succ_le_succ h.2⟩)
  left_inv _ := rfl
  right_inv
    | ⟨[], h⟩ => absurd h.1 (Nat.not_succ_le_zero low)
    | ⟨_ :: _, _⟩ => rfl

/-- A row that may be empty is empty, or a member and a row. -/
def consOrNil : Option (α × Row α 0 high) ≃ Row α 0 (high + 1) where
  toFun
    | none => ⟨[], Nat.le_refl 0, Nat.zero_le _⟩
    | some (a, row) => ⟨a :: row.1, Nat.zero_le _, Nat.succ_le_succ row.2.2⟩
  invFun
    | ⟨[], _⟩ => none
    | ⟨a :: as, h⟩ => some (a, ⟨as, Nat.zero_le _, Nat.le_of_succ_le_succ h.2⟩)
  left_inv
    | none => rfl
    | some _ => rfl
  right_inv
    | ⟨[], _⟩ => rfl
    | ⟨_ :: _, _⟩ => rfl

/-- Members whose words are of one length, and not empty, are told apart by their text. -/
theorem word_injective {f : α → List Char} (hf : Function.Injective f)
    (length : ∀ a b, (f a).length = (f b).length) (filled : ∀ a, f a ≠ []) :
    Function.Injective (word f : Row α low high → List Char) := by
  have lists : Function.Injective fun as : List α => as.flatMap f := by
    intro as bs h
    have empty : ∀ {a as}, (a :: as).flatMap f ≠ [] := fun {a as} he =>
      filled a (List.append_eq_nil_iff.1 he).1
    induction as generalizing bs with
    | nil =>
      cases bs with
      | nil => rfl
      | cons b bs => exact absurd h.symm empty
    | cons a as ih =>
      cases bs with
      | nil => exact absurd h empty
      | cons b bs =>
        obtain ⟨first, rest⟩ := List.append_inj h (length a b)
        rw [hf first, ih rest]
  exact fun _ _ h => Subtype.ext (lists h)

end Row

end Rows

section Atoms

variable {s : Sequence}

/-- A derivation of one item counts as a use of `i` if the item is `i`, or else as the uses inside
it. -/
def Derivation.use (i : Item) {j : Item} (d : Derivation rules [j])
    (inside : List (Derivation rules [i])) : List (Derivation rules [i]) :=
  if h : j = i then [h ▸ d] else inside

mutual

/-- The derivations of `i` that a derivation of a pattern uses, from left to right. -/
def Derivation.atoms (i : Item) :
    {s : Sequence} → Derivation rules s → List (Derivation rules [i])
  | _, .nil => []
  | _, .text x d => (Derivation.text x .nil).use i [] ++ d.atoms i
  | _, .oneOf c hc d => (Derivation.oneOf c hc .nil).use i [] ++ d.atoms i
  | _, .ref hp c d => (Derivation.ref hp c .nil).use i [] ++ d.atoms i
  | _, .group c d => (Derivation.group c .nil).use i (c.atoms i) ++ d.atoms i
  | _, .skip (p := p) d => (Derivation.skip (p := p) .nil).use i [] ++ d.atoms i
  | _, .take c d => (Derivation.take c .nil).use i (c.atoms i) ++ d.atoms i

def Choice.atoms (i : Item) : {p : Production} → Choice rules p → List (Derivation rules [i])
  | _, .here d => d.atoms i
  | _, .there c => c.atoms i

end

theorem Derivation.use_self (d : Derivation rules [i]) (inside : List (Derivation rules [i])) :
    d.use i inside = [d] := by
  rw [use, dif_pos rfl]

theorem Derivation.use_other {j : Item} (h : j ≠ i) (d : Derivation rules [j])
    (inside : List (Derivation rules [i])) : d.use i inside = inside := by
  rw [use, dif_neg h]

@[simp] theorem Derivation.atoms_nil : (nil : Derivation rules []).atoms i = [] := by
  rw [atoms]

theorem Derivation.atoms_cons (d : Derivation rules (i :: s)) :
    d.atoms i = d.uncons.1 :: d.uncons.2.atoms i := by
  cases d <;> rw [atoms, use_self] <;> rfl

theorem Derivation.atoms_optional (h : Item.optional [s] ≠ i)
    (d : Derivation rules [.optional [s]]) :
    d.atoms i = (spare d).elim [] (Derivation.atoms i) := by
  cases d with
  | skip e => rw [atoms, use_other h, e.eq_nil, atoms_nil]; rfl
  | take c e =>
    rw [atoms, use_other h, e.eq_nil, atoms_nil, List.append_nil]
    cases c with
    | here d => rw [Choice.atoms]; rfl
    | there c => exact isEmptyElim c

theorem Derivation.word_spare (d : Derivation rules [.optional [s]]) :
    (spare d).elim [] Derivation.word = d.word := by
  cases d with
  | skip e => rw [word, e.eq_nil, word]; rfl
  | take c e =>
    rw [word, e.eq_nil, word, List.append_nil]
    cases c with
    | here d => rw [Choice.word]; rfl
    | there c => exact isEmptyElim c

variable (rules) (i)

/-- A pattern that asks for nothing but `i`, at least `low` times and at most `high` times: its
derivations pair off with the rows of derivations of `i`. -/
structure Iterates (s : Sequence) (low high : Nat) : Prop where
  word : ∀ d : Derivation rules s, d.word = (d.atoms i).flatMap Derivation.word
  matched : Matched (Derivation.atoms i : Derivation rules s → List (Derivation rules [i]))
    (Subtype.val : Row (Derivation rules [i]) low high → _)

variable {rules i}

namespace Iterates

variable {low high : Nat}

theorem nil : Iterates rules i [] 0 0 := by
  refine ⟨fun d => ?_, ⟨fun _ => ⟨[], Nat.le_refl 0, Nat.le_refl 0⟩, fun _ => .nil,
    fun d => d.eq_nil.symm, fun row => Subtype.ext ?_⟩, fun d => ?_⟩
  · rw [d.eq_nil, Derivation.atoms_nil]
    rfl
  · exact (List.length_eq_zero_iff.1 (Nat.le_zero.1 row.2.2)).symm
  · rw [d.eq_nil, Derivation.atoms_nil]
    rfl

theorem cons (h : Iterates rules i s low high) :
    Iterates rules i (i :: s) (low + 1) (high + 1) := by
  obtain ⟨e, he⟩ := h.matched
  refine ⟨fun d => ?_,
    (Derivation.split.trans ((Equiv.refl _).prodCongr e)).trans Row.cons, fun d => ?_⟩
  · rw [d.atoms_cons, List.flatMap_cons, ← h.word, d.word_uncons]
  · rw [d.atoms_cons, ← he]
    rfl

/-- One more that may be left out, together with all that may follow it. -/
theorem optional (h : Iterates rules i s 0 high) (other : Item.optional [i :: s] ≠ i) :
    Iterates rules i [.optional [i :: s]] 0 (high + 1) := by
  obtain ⟨e, he⟩ := h.matched
  refine ⟨fun d => ?_, (Derivation.spare.trans
    (Derivation.split.trans ((Equiv.refl _).prodCongr e)).optionCongr).trans Row.consOrNil,
    fun d => ?_⟩
  · rw [d.atoms_optional other, ← d.word_spare]
    cases Derivation.spare d with
    | none => rfl
    | some d => exact h.cons.word d
  · rw [d.atoms_optional other]
    simp only [Equiv.trans_apply]
    cases Derivation.spare d with
    | none => rfl
    | some d => exact (congrArg (d.uncons.1 :: ·) (he d.uncons.2)).trans d.atoms_cons.symm

theorem bounds (h : Iterates rules i s low high) (d : Derivation rules s) :
    low ≤ (d.atoms i).length ∧ (d.atoms i).length ≤ high := by
  obtain ⟨e, he⟩ := h.matched
  rw [← he d]
  exact (e d).2

theorem existsUnique (h : Iterates rules i s low high) {as : List (Derivation rules [i])}
    (hl : low ≤ as.length) (hh : as.length ≤ high) :
    ∃! d : Derivation rules s, d.atoms i = as := by
  obtain ⟨e, he⟩ := h.matched
  refine ⟨e.symm ⟨as, hl, hh⟩, ?_, fun d hd => ?_⟩
  · dsimp only
    rw [← he, e.apply_symm_apply]
  · rw [Equiv.eq_symm_apply]
    exact Subtype.ext ((he d).trans hd)

end Iterates

theorem optional_cons_ne (i : Item) (s : Sequence) : Item.optional [i :: s] ≠ i := by
  intro h
  have size := congrArg sizeOf h
  simp at size
  omega

theorem iterates_nested (k : Nat) : Iterates rules i (nested i k) 0 k := by
  induction k with
  | zero => exact .nil
  | succ k ih => exact ih.optional (optional_cons_ne i _)

theorem iterates_between {low high : Nat} (h : low ≤ high) :
    Iterates rules i (between i low high) low high := by
  obtain ⟨k, rfl⟩ := Nat.exists_eq_add_of_le h
  rw [between_eq, Nat.add_sub_cancel_left]
  clear h
  induction low with
  | zero =>
    rw [Nat.zero_add]
    exact iterates_nested k
  | succ low ih =>
    rw [Nat.add_right_comm]
    exact ih.cons

variable (rules) (i)

/-- The derivations of an item repeated between two bounds pair off with the rows of derivations of
the item, so there is one for every choice of them. -/
theorem matched_between {low high : Nat} (h : low ≤ high) :
    Matched (derived rules (between i low high))
      (Row.word (derived rules [i]) : Row _ low high → List Char) := by
  have all : Iterates rules i (between i low high) low high := iterates_between h
  have words := all.matched.map fun as => as.flatMap Derivation.word
  exact (Matched.of_eq all.word).trans words

end Atoms

end FieldSchema.Grammar
