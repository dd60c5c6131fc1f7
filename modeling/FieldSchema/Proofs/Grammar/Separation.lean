import FieldSchema.Grammar.Compile
import FieldSchema.Proofs.Grammar.Repetition
import FieldSchema.Proofs.Json.Pieces
import Mathlib.Data.List.TakeWhile

/-! What the bodies of arrays and objects derive: words with a comma between each two. Every choice
of optional members of an object comes about, in their order, and every number of items between the
bounds of an array. -/
namespace FieldSchema.Grammar

open Json (commaSeparated commaSeparated_nil commaSeparated_cons commaSeparated_cons_of_ne_nil)

variable {rules : List (String × Production)} {admits : String → List Char → Prop}
  {i : Item} {w : List Char}

@[simp] theorem derives_comma : Derives rules admits [comma] w ↔ w = [','] := by
  simp [comma]

theorem derives_comma_cons {t : Sequence} : Derives rules admits (comma :: t) w ↔
    ∃ v, w = ',' :: v ∧ Derives rules admits t v := by
  rw [comma, derives_text_cons]
  rfl

/-- One word for each of some members, in their order. Only an optional member can be left out. -/
inductive Picks (word : Part → List Char → Prop) : List Part → List (List Char) → Prop where
  | nil : Picks word [] []
  | take {m : Part} {ms : List Part} {u : List Char} {us : List (List Char)} :
      word m u → Picks word ms us → Picks word (m :: ms) (u :: us)
  | leave {m : Part} {ms : List Part} {us : List (List Char)} :
      m.optional → Picks word ms us → Picks word (m :: ms) us

namespace Picks

variable {word : Part → List Char → Prop} {m : Part} {ms ns : List Part}
  {us : List (List Char)}

@[simp] theorem nil_iff : Picks word [] us ↔ us = [] := by
  constructor
  · intro h; cases h; rfl
  · rintro rfl; exact .nil

theorem cons_iff : Picks word (m :: ms) us ↔
    (∃ v vs, us = v :: vs ∧ word m v ∧ Picks word ms vs) ∨ m.optional ∧ Picks word ms us := by
  constructor
  · intro h
    cases h with
    | take hu h => exact .inl ⟨_, _, rfl, hu, h⟩
    | leave ho h => exact .inr ⟨ho, h⟩
  · rintro (⟨v, vs, rfl, hv, h⟩ | ⟨ho, h⟩)
    · exact .take hv h
    · exact .leave ho h

theorem exists_cons {p : List (List Char) → Prop} : (∃ us, Picks word (m :: ms) us ∧ p us) ↔
    (∃ u, word m u ∧ ∃ us, Picks word ms us ∧ p (u :: us)) ∨
      m.optional ∧ ∃ us, Picks word ms us ∧ p us := by
  constructor
  · rintro ⟨us, h, hp⟩
    cases h with
    | take hu h => exact .inl ⟨_, hu, _, h, hp⟩
    | leave ho h => exact .inr ⟨ho, us, h, hp⟩
  · rintro (⟨u, hu, us, h, hp⟩ | ⟨ho, us, h, hp⟩)
    · exact ⟨u :: us, .take hu h, hp⟩
    · exact ⟨us, .leave ho h, hp⟩

theorem append_iff : Picks word (ms ++ ns) us ↔
    ∃ vs xs, us = vs ++ xs ∧ Picks word ms vs ∧ Picks word ns xs := by
  induction ms generalizing us with
  | nil => simp
  | cons m ms ih =>
    rw [List.cons_append, cons_iff]
    constructor
    · rintro (⟨v, vs, rfl, hv, h⟩ | ⟨ho, h⟩)
      · obtain ⟨ys, xs, rfl, hy, hx⟩ := ih.1 h
        exact ⟨v :: ys, xs, rfl, .take hv hy, hx⟩
      · obtain ⟨ys, xs, rfl, hy, hx⟩ := ih.1 h
        exact ⟨ys, xs, rfl, .leave ho hy, hx⟩
    · rintro ⟨vs, xs, rfl, h, hx⟩
      obtain ⟨v, ys, rfl, hv, hy⟩ | ⟨ho, hy⟩ := cons_iff.1 h
      · exact .inl ⟨v, ys ++ xs, rfl, hv, ih.2 ⟨ys, xs, rfl, hy, hx⟩⟩
      · exact .inr ⟨ho, ih.2 ⟨vs, xs, rfl, hy, hx⟩⟩

/-- A required member brings a word. -/
theorem ne_nil (p : Picks word ms us) (h : ¬ ∀ m ∈ ms, m.optional) : us ≠ [] := by
  induction p with
  | nil => exact absurd (List.forall_mem_nil _) h
  | take => exact List.cons_ne_nil _ _
  | leave ho _ ih => exact ih fun hms => h (List.forall_mem_cons.2 ⟨ho, hms⟩)

theorem replicate_iff {n : Nat} : Picks word (List.replicate n m) us ↔
    (us.length = n ∨ m.optional ∧ us.length ≤ n) ∧ ∀ u ∈ us, word m u := by
  induction n generalizing us with
  | zero => cases us <;> simp
  | succ n ih =>
    rw [List.replicate_succ, cons_iff]
    constructor
    · rintro (⟨v, vs, rfl, hv, h⟩ | ⟨ho, h⟩)
      · obtain ⟨hl, hvs⟩ := ih.1 h
        exact ⟨hl.imp (congrArg Nat.succ) (.imp_right Nat.succ_le_succ),
          List.forall_mem_cons.2 ⟨hv, hvs⟩⟩
      · obtain ⟨hl, hus⟩ := ih.1 h
        exact ⟨.inr ⟨ho, by omega⟩, hus⟩
    · rintro ⟨hl, hus⟩
      cases us with
      | nil =>
        obtain ⟨ho, -⟩ : m.optional ∧ _ := hl.resolve_left (Nat.succ_ne_zero n).symm
        exact .inr ⟨ho, ih.2 ⟨.inr ⟨ho, Nat.zero_le n⟩, hus⟩⟩
      | cons v vs =>
        obtain ⟨hv, hvs⟩ := List.forall_mem_cons.1 hus
        exact .inl ⟨v, vs, rfl, hv,
          ih.2 ⟨hl.imp Nat.succ.inj (.imp_right Nat.le_of_succ_le_succ), hvs⟩⟩

end Picks

section ObjectBody

variable {m : Part} {ms : List Part}

/-- A member that is there, in front of those that others are chosen from. -/
theorem derives_there {s t : Sequence} {f : List Char → List Char}
    {g k : List (List Char) → List Char}
    (hs : ∀ v, Derives rules admits s v ↔ ∃ u, Derives rules admits m.sequence u ∧ v = f u)
    (ht : ∀ v, Derives rules admits t v ↔
      ∃ us, Picks (fun m => Derives rules admits m.sequence) ms us ∧ v = g us)
    (join : ∀ u us, Picks (fun m => Derives rules admits m.sequence) ms us →
      f u ++ g us = k (u :: us)) :
    Derives rules admits (s ++ t) w ↔ ∃ u, Derives rules admits m.sequence u ∧
      ∃ us, Picks (fun m => Derives rules admits m.sequence) ms us ∧ w = k (u :: us) := by
  rw [derives_append]
  constructor
  · rintro ⟨x, y, rfl, hx, hy⟩
    obtain ⟨u, hu, rfl⟩ := (hs x).1 hx
    obtain ⟨us, hus, rfl⟩ := (ht y).1 hy
    exact ⟨u, hu, us, hus, join u us hus⟩
  · rintro ⟨u, hu, us, hus, rfl⟩
    exact ⟨f u, g us, (join u us hus).symm, (hs _).2 ⟨u, hu, rfl⟩, (ht _).2 ⟨us, hus, rfl⟩⟩

theorem derives_optional_cons {s t : Sequence} : Derives rules admits (.optional [s] :: t) w ↔
    Derives rules admits (s ++ t) w ∨ Derives rules admits t w := by
  rw [derives_cons, derives_append]
  simp only [derives_optional, produces_singleton]
  constructor
  · rintro ⟨u, v, rfl, rfl | hu, hv⟩
    · exact .inr hv
    · exact .inl ⟨u, v, rfl, hu, hv⟩
  · rintro (⟨u, v, rfl, hu, hv⟩ | hv)
    · exact ⟨u, v, rfl, .inr hu, hv⟩
    · exact ⟨[], w, rfl, .inl rfl, hv⟩

theorem followers_cons (m : Part) (ms : List Part) : followers (m :: ms) =
    (if m.optional then [.optional [comma :: m.sequence]] else comma :: m.sequence) ++
      followers ms := rfl

theorem derives_followers : Derives rules admits (followers ms) w ↔
    ∃ us, Picks (fun m => Derives rules admits m.sequence) ms us ∧ w = us.flatMap (',' :: ·) := by
  induction ms generalizing w with
  | nil => simp [followers]
  | cons m ms ih =>
    have before : ∀ v, Derives rules admits (comma :: m.sequence) v ↔
        ∃ u, Derives rules admits m.sequence u ∧ v = ',' :: u := fun v => by
      rw [derives_comma_cons]
      exact exists_congr fun u => and_comm
    have there := derives_there (w := w) (k := fun us => us.flatMap (',' :: ·)) before (fun _ => ih)
      fun _ _ _ => rfl
    rw [followers_cons, Picks.exists_cons, ← there, ← ih]
    cases m.optional with
    | true => simp [derives_optional_cons]
    | false => simp

theorem derives_first : Derives rules admits (m.sequence ++ followers ms) w ↔
    ∃ u, Derives rules admits m.sequence u ∧
      ∃ us, Picks (fun m => Derives rules admits m.sequence) ms us ∧ w = commaSeparated (u :: us) :=
  derives_there (f := id) (fun v => by simp) (fun _ => derives_followers)
    fun u us _ => (commaSeparated_cons u us).symm

/-- Where every member is optional, each of them may be the first, and perhaps none is there. -/
theorem produces_anyFirst (ho : ∀ m ∈ ms, m.optional) :
    w = [] ∨ Produces rules admits (anyFirst ms) w ↔
      ∃ us, Picks (fun m => Derives rules admits m.sequence) ms us ∧ w = commaSeparated us := by
  induction ms with
  | nil => simp [anyFirst]
  | cons m ms ih =>
    obtain ⟨hm, hms⟩ := List.forall_mem_cons.1 ho
    rw [anyFirst, produces_cons, or_left_comm, ih hms, derives_first, Picks.exists_cons]
    simp [hm]

theorem objectBody_of_optional (hm : m.optional = true) (h : ∀ p ∈ ms, p.optional) :
    objectBody (m :: ms) = [.optional (anyFirst (m :: ms))] := by
  have none : (m :: ms).dropWhile (·.optional) = [] :=
    List.dropWhile_eq_nil_iff.2 (List.forall_mem_cons.2 ⟨hm, h⟩)
  rw [objectBody, none]
  rfl

theorem objectBody_required (h : m.optional = false) :
    objectBody (m :: ms) = m.sequence ++ followers ms := by
  have stop : (m :: ms).dropWhile (·.optional) = m :: ms := by simp [h]
  have front : (m :: ms).takeWhile (·.optional) = [] := by simp [h]
  rw [objectBody, stop]
  dsimp only
  rw [front]
  rfl

theorem objectBody_leading (hm : m.optional = true) (h : ¬ ∀ p ∈ ms, p.optional) :
    objectBody (m :: ms) = .optional [m.sequence ++ [comma]] :: objectBody ms := by
  have some : ms.dropWhile (·.optional) ≠ [] := fun none => h (List.dropWhile_eq_nil_iff.1 none)
  obtain ⟨anchor, later, hd⟩ := List.exists_cons_of_ne_nil some
  have whole : (m :: ms).dropWhile (·.optional) = anchor :: later := by
    rw [List.dropWhile_cons, if_pos hm, hd]
  rw [objectBody, whole, objectBody, hd]
  dsimp only
  rw [List.takeWhile_cons, if_pos hm]
  rfl

/-- An object's body is a word for each member that is there, whichever are left out. -/
theorem derives_objectBody : Derives rules admits (objectBody ms) w ↔
    ∃ us, Picks (fun m => Derives rules admits m.sequence) ms us ∧ w = commaSeparated us := by
  induction ms generalizing w with
  | nil => simp [objectBody]
  | cons m ms ih =>
    cases hm : m.optional with
    | false =>
      rw [objectBody_required hm, derives_first, Picks.exists_cons]
      simp [hm]
    | true =>
      by_cases h : ∀ p ∈ ms, p.optional
      · rw [objectBody_of_optional hm h, derives_optional]
        exact produces_anyFirst (List.forall_mem_cons.2 ⟨hm, h⟩)
      · -- A required member is still to come, so the comma after this one has a word behind it.
        have there := derives_there (m := m) (w := w) (k := commaSeparated) (f := (· ++ [',']))
          (s := m.sequence ++ [comma]) (by simp [derives_append, and_comm]) (fun _ => ih)
          fun u us hus => by
            rw [commaSeparated_cons_of_ne_nil u (hus.ne_nil h), List.append_assoc]
            rfl
        rw [objectBody_leading hm h, derives_optional_cons, there, ih, Picks.exists_cons]
        simp [hm]

end ObjectBody

section ArrayBody

variable {k n : Nat}

/-- The items of an array as members without keys: those that have to be there, and those that may
be left out. -/
def slots (i : Item) (k n : Nat) : List Part :=
  List.replicate k ⟨[i], false⟩ ++ List.replicate n ⟨[i], true⟩

theorem picks_slots {us : List (List Char)} :
    Picks (fun m => Derives rules admits m.sequence) (slots i k n) us ↔
      k ≤ us.length ∧ us.length ≤ k + n ∧ ∀ u ∈ us, Derives rules admits [i] u := by
  rw [slots, Picks.append_iff]
  simp only [Picks.replicate_iff]
  constructor
  · rintro ⟨vs, xs, rfl, ⟨hv, words⟩, ⟨hx, others⟩⟩
    have length : (vs ++ xs).length = vs.length + xs.length := List.length_append
    simp only [Bool.false_eq_true, false_and, or_false, true_and] at hv hx
    exact ⟨by omega, by omega, List.forall_mem_append.2 ⟨words, others⟩⟩
  · rintro ⟨low, high, words⟩
    have rest : (us.drop k).length ≤ n := by
      rw [List.length_drop]
      omega
    exact ⟨us.take k, us.drop k, (List.take_append_drop k us).symm,
      ⟨.inl (List.length_take_of_le low), fun u hu => words u (List.mem_of_mem_take hu)⟩,
      .inr ⟨trivial, rest⟩, fun u hu => words u (List.mem_of_mem_drop hu)⟩

theorem intersperse_comma (i : Item) (k : Nat) :
    (List.replicate (k + 1) i).intersperse comma = i :: followers (slots i k 0) := by
  induction k with
  | zero => rfl
  | succ k ih =>
    have more : (List.replicate (k + 1 + 1) i).intersperse comma =
        i :: comma :: (List.replicate (k + 1) i).intersperse comma := rfl
    rw [more, ih]
    rfl

theorem followers_slots (i : Item) (k n : Nat) : followers (slots i k n) =
    followers (slots i k 0) ++ List.replicate n (.optional [[comma, i]]) := by
  simp [slots, followers, List.flatMap_replicate]

/-- The items of an array with at least one are the members of a body whose first is required. -/
theorem items_eq_objectBody (i : Item) (k n : Nat) :
    i :: followers (slots i k n) = objectBody (slots i (k + 1) n) := by
  have first : slots i (k + 1) n = ⟨[i], false⟩ :: slots i k n := rfl
  rw [first, objectBody_required rfl]
  rfl

theorem arrayBody_of_low_ne_zero {b : Bounds Nat} (hlow : b.low ≠ 0) :
    arrayBody i b = objectBody (slots i b.low (b.high - b.low)) := by
  have ordered := b.ordered
  obtain ⟨k, hk⟩ := Nat.exists_eq_succ_of_ne_zero hlow
  unfold arrayBody
  dsimp only
  rw [if_neg (by omega), if_neg hlow, hk, intersperse_comma, List.cons_append, ← followers_slots,
    items_eq_objectBody]

theorem arrayBody_of_low_eq_zero {b : Bounds Nat} (hlow : b.low = 0) (hhigh : b.high ≠ 0) :
    arrayBody i b = [.optional [objectBody (slots i 1 (b.high - 1))]] := by
  unfold arrayBody
  dsimp only
  rw [if_neg hhigh, if_pos hlow, ← items_eq_objectBody, followers_slots]
  rfl

/-- An array's body is any number of items that the bounds admit. -/
theorem derives_arrayBody {b : Bounds Nat} : Derives rules admits (arrayBody i b) w ↔
    ∃ ws : List (List Char), b.low ≤ ws.length ∧ ws.length ≤ b.high ∧
      (∀ u ∈ ws, Derives rules admits [i] u) ∧ w = commaSeparated ws := by
  have ordered := b.ordered
  have items : ∀ k n, Derives rules admits (objectBody (slots i k n)) w ↔
      ∃ ws : List (List Char), k ≤ ws.length ∧ ws.length ≤ k + n ∧
        (∀ u ∈ ws, Derives rules admits [i] u) ∧ w = commaSeparated ws := fun k n => by
    simp only [derives_objectBody, picks_slots, and_assoc]
  by_cases hlow : b.low = 0
  · by_cases hhigh : b.high = 0
    · have none : arrayBody i b = [] := if_pos hhigh
      rw [none, derives_nil, hlow, hhigh]
      simp
    · rw [arrayBody_of_low_eq_zero hlow hhigh, derives_optional, produces_singleton, items,
        Nat.add_sub_cancel' (Nat.pos_of_ne_zero hhigh), hlow]
      constructor
      · rintro (rfl | ⟨ws, -, high, words, rfl⟩)
        · exact ⟨[], Nat.le_refl 0, Nat.zero_le _, by simp, rfl⟩
        · exact ⟨ws, Nat.zero_le _, high, words, rfl⟩
      · rintro ⟨ws, -, high, words, rfl⟩
        cases ws with
        | nil => exact .inl rfl
        | cons u us => exact .inr ⟨u :: us, Nat.succ_pos _, high, words, rfl⟩
  · rw [arrayBody_of_low_ne_zero hlow, items, Nat.add_sub_cancel' ordered]

end ArrayBody

end FieldSchema.Grammar
