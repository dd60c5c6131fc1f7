import FieldSchema.Proofs.Grammar.Separation
import FieldSchema.Proofs.Grammar.Tree

/-! Commas in the body of an object. The derivations of a body pair off with the ways to leave out
optional members and to derive the others, so no choice of members comes about in two ways; and a
comma stands between two members, nowhere else. -/
namespace FieldSchema.Grammar

open Json (commaSeparated commaSeparated_nil commaSeparated_cons commaSeparated_cons_of_ne_nil)

section Selections

variable (rules : List (String × Production))

/-- Which members are there, each with a derivation. Only an optional one may be left out. -/
inductive Selection : List Part → Type where
  | nil : Selection []
  | take {m : Part} {ms : List Part} : Derivation rules m.sequence → Selection ms →
    Selection (m :: ms)
  | leave {m : Part} {ms : List Part} : m.optional = true → Selection ms → Selection (m :: ms)

variable {rules} {m : Part} {ms : List Part}

def Selection.words : {ms : List Part} → Selection rules ms → List (List Char)
  | _, .nil => []
  | _, .take d σ => d.word :: σ.words
  | _, .leave _ σ => σ.words

theorem Selection.picks : {ms : List Part} → (σ : Selection rules ms) →
    Picks (fun m => Derives rules (fun _ _ => True) m.sequence) ms σ.words
  | _, .nil => .nil
  | _, .take d σ => .take d.derives σ.picks
  | _, .leave ho σ => .leave ho σ.picks

variable (rules)

def selected (ms : List Part) : Selection rules ms → List (List Char) := Selection.words

theorem matched_noMember : Matched (selected rules []) fun _ : Unit => [] := by
  refine ⟨⟨fun _ => (), fun _ => .nil, fun σ => ?_, fun _ => rfl⟩, fun σ => ?_⟩ <;> cases σ <;> rfl

theorem matched_required (ms : List Part) (h : m.optional = false) :
    Matched (selected rules (m :: ms)) fun x : Derivation rules m.sequence × Selection rules ms =>
      derived rules m.sequence x.1 :: selected rules ms x.2 := by
  have there : m.optional ≠ true := by rw [h]; exact Bool.false_ne_true
  refine ⟨⟨fun | .take d σ => (d, σ) | .leave ho _ => absurd ho there, fun x => .take x.1 x.2,
    fun σ => ?_, fun _ => rfl⟩, fun σ => ?_⟩
  · cases σ with
    | take => rfl
    | leave ho => exact absurd ho there
  · cases σ with
    | take => rfl
    | leave ho => exact absurd ho there

theorem matched_mayBeLeft (ms : List Part) (h : m.optional = true) :
    Matched (selected rules (m :: ms)) (Sum.elim
      (fun x : Derivation rules m.sequence × Selection rules ms =>
        derived rules m.sequence x.1 :: selected rules ms x.2)
      (selected rules ms)) := by
  refine ⟨⟨fun | .take d σ => .inl (d, σ) | .leave _ σ => .inr σ,
    Sum.elim (fun x => .take x.1 x.2) (.leave h), fun σ => ?_, fun x => ?_⟩, fun σ => ?_⟩
  · cases σ <;> rfl
  · cases x <;> rfl
  · cases σ <;> rfl

end Selections

section Bodies

variable (rules : List (String × Production)) {m : Part} {ms : List Part}

theorem matched_comma_before (m : Part) : Matched (derived rules (comma :: m.sequence))
    fun d : Derivation rules m.sequence => ',' :: derived rules m.sequence d :=
  matched_text_cons rules "," m.sequence

theorem matched_comma_after (m : Part) : Matched (derived rules (m.sequence ++ [comma]))
    fun d : Derivation rules m.sequence => derived rules m.sequence d ++ [','] :=
  matched_text_last rules "," m.sequence

/-- What is derived for a member that may be left out, and for those after it. -/
theorem matched_head (f : List Char → List Char) {h k : List (List Char) → List Char}
    {s t : Sequence} (ho : m.optional = true)
    (hs : Matched (derived rules s) fun d => f (derived rules m.sequence d))
    (ht : Matched (derived rules t) fun σ => h (selected rules ms σ))
    (take : ∀ u, ∀ σ : Selection rules ms, f u ++ h σ.words = k (u :: σ.words))
    (leave : ∀ σ : Selection rules ms, h σ.words = k σ.words) :
    Matched (derived rules (.optional [s] :: t)) fun σ => k (selected rules (m :: ms) σ) := by
  have split := (matched_cons rules (.optional [s]) t).trans
    ((matched_optional_single rules hs).append ht)
  have choices := split.trans (Matched.option_append (fun d => f (derived rules m.sequence d))
    fun σ => h (selected rules ms σ))
  refine choices.trans (Matched.trans ?_ ((matched_mayBeLeft rules ms ho).map k).symm)
  refine .of_eq ?_
  rintro (⟨d, σ⟩ | σ)
  · exact take _ σ
  · exact leave σ

theorem matched_followers (ms : List Part) : Matched (derived rules (followers ms))
    fun σ : Selection rules ms => (selected rules ms σ).flatMap (',' :: ·) := by
  induction ms with
  | nil =>
    exact (matched_nil rules).trans ((matched_noMember rules).map (·.flatMap (',' :: ·))).symm
  | cons m ms ih =>
    rw [followers_cons]
    cases ho : m.optional with
    | true =>
      rw [if_pos rfl]
      exact matched_head rules (',' :: ·) ho (matched_comma_before rules m) ih (fun _ _ => rfl)
        fun _ => rfl
    | false =>
      rw [if_neg Bool.false_ne_true]
      have both := (matched_append rules _ _).trans ((matched_comma_before rules m).append ih)
      exact both.trans ((matched_required rules ms ho).map (·.flatMap (',' :: ·))).symm

/-- Where every member may be left out, any may come first, and perhaps none is there. -/
theorem matched_anyFirst (ho : ∀ m ∈ ms, m.optional) :
    Matched (fun c : Option (Choice rules (anyFirst ms)) => c.elim [] (chosen rules (anyFirst ms)))
      fun σ => commaSeparated (selected rules ms σ) := by
  induction ms with
  | nil =>
    exact (Matched.option_of_isEmpty (chosen rules [])).trans
      ((matched_noMember rules).map commaSeparated).symm
  | cons m ms ih =>
    obtain ⟨hm, hms⟩ := List.forall_mem_cons.1 ho
    have first : Matched (derived rules (m.sequence ++ followers ms))
        fun x : Derivation rules m.sequence × Selection rules ms =>
          commaSeparated (derived rules m.sequence x.1 :: selected rules ms x.2) := by
      refine (matched_append rules _ _).trans (((Matched.refl _).append
        (matched_followers rules ms)).trans (.of_eq fun x => ?_))
      exact (commaSeparated_cons _ _).symm
    have choices := ((matched_choice rules (m.sequence ++ followers ms) (anyFirst ms)).option.trans
      (Matched.option_sum _ _)).trans (first.sum (ih hms))
    refine choices.trans (Matched.trans (.of_eq ?_)
      ((matched_mayBeLeft rules ms hm).map commaSeparated).symm)
    rintro (x | σ) <;> rfl

/-- The derivations of a body pair off with the selections of members. -/
theorem matched_objectBody (ms : List Part) : Matched (derived rules (objectBody ms))
    fun σ : Selection rules ms => commaSeparated (selected rules ms σ) := by
  induction ms with
  | nil => exact (matched_nil rules).trans ((matched_noMember rules).map commaSeparated).symm
  | cons m ms ih =>
    cases hm : m.optional with
    | false =>
      rw [objectBody_required hm]
      have both := (matched_append rules _ _).trans
        ((Matched.refl (derived rules m.sequence)).append (matched_followers rules ms))
      refine both.trans (Matched.trans (.of_eq fun x => ?_)
        ((matched_required rules ms hm).map commaSeparated).symm)
      exact (commaSeparated_cons _ _).symm
    | true =>
      by_cases h : ∀ p ∈ ms, p.optional
      · rw [objectBody_of_optional hm h]
        exact (matched_optional rules _).trans
          (matched_anyFirst rules (List.forall_mem_cons.2 ⟨hm, h⟩))
      · rw [objectBody_leading hm h]
        refine matched_head rules (· ++ [',']) hm (matched_comma_after rules m) ih (fun u σ => ?_)
          fun _ => rfl
        rw [commaSeparated_cons_of_ne_nil u (σ.picks.ne_nil h), List.append_assoc]
        rfl

end Bodies

section Commas

/-- A comma at either end, or two in a row. -/
def StrayComma (w : List Char) : Prop := [','] <+: w ∨ [','] <:+ w ∨ [',', ','] <:+: w

/-- Two characters in a row stand in one of two texts, or where they meet. -/
theorem pair_infix_append {a b : List Char} {x y : Char} (h : [x, y] <:+: a ++ b) :
    [x, y] <:+: a ∨ [x, y] <:+: b ∨ [x] <:+ a ∧ [y] <+: b := by
  obtain ⟨s, t, h⟩ := h
  rw [List.append_assoc] at h
  rcases List.append_eq_append_iff.1 h with ⟨c, rfl, hc⟩ | ⟨c, rfl, hc⟩
  · -- The pair starts in the first text.
    rcases c with _ | ⟨d, _ | ⟨e, c⟩⟩
    · exact .inr (.inl ⟨[], t, hc⟩)
    · obtain ⟨rfl, rest⟩ := List.cons.inj hc
      exact .inr (.inr ⟨⟨s, rfl⟩, ⟨t, rest⟩⟩)
    · obtain ⟨rfl, rest⟩ := List.cons.inj hc
      obtain ⟨rfl, -⟩ := List.cons.inj rest
      exact .inl ⟨s, c, by simp⟩
  · exact .inr (.inl ⟨c, t, by simpa using hc.symm⟩)

theorem strayComma_commaSeparated {us : List (List Char)} (h : StrayComma (commaSeparated us)) :
    ∃ u ∈ us, u = [] ∨ StrayComma u := by
  induction us with
  | nil =>
    rcases h with h | h | h
    · exact absurd (List.prefix_nil.1 h) (List.cons_ne_nil _ _)
    · exact absurd (List.suffix_nil.1 h) (List.cons_ne_nil _ _)
    · exact absurd (List.infix_nil.1 h) (List.cons_ne_nil _ _)
  | cons u us ih =>
    cases us with
    | nil =>
      have alone : commaSeparated [u] = u := by simp [commaSeparated_cons]
      rw [alone] at h
      exact ⟨u, List.mem_singleton_self u, .inr h⟩
    | cons v vs =>
      have split : commaSeparated (u :: v :: vs) = u ++ ',' :: commaSeparated (v :: vs) :=
        commaSeparated_cons_of_ne_nil u (List.cons_ne_nil v vs)
      have here : u = [] ∨ StrayComma u → ∃ w ∈ u :: v :: vs, w = [] ∨ StrayComma w :=
        fun hu => ⟨u, List.mem_cons_self, hu⟩
      have later : StrayComma (commaSeparated (v :: vs)) →
          ∃ w ∈ u :: v :: vs, w = [] ∨ StrayComma w := fun stray => by
        obtain ⟨w, hw, hs⟩ := ih stray
        exact ⟨w, List.mem_cons_of_mem _ hw, hs⟩
      rw [split] at h
      rcases h with h | h | h
      · cases u with
        | nil => exact here (.inl rfl)
        | cons c u =>
          obtain ⟨t, ht⟩ := h
          obtain ⟨rfl, -⟩ := List.cons.inj ht
          exact here (.inr (.inl ⟨u, rfl⟩))
      · by_cases none : commaSeparated (v :: vs) = []
        · rw [commaSeparated_cons, List.append_eq_nil_iff] at none
          exact ⟨v, by simp, .inl none.1⟩
        · have last := List.suffix_of_suffix_length_le h
            ((List.suffix_cons ',' (commaSeparated (v :: vs))).trans (List.suffix_append u _))
            (List.length_pos_iff.2 none)
          exact later (.inr (.inl last))
      · rcases pair_infix_append h with h | h | ⟨h, -⟩
        · exact here (.inr (.inr (.inr h)))
        · rcases List.infix_cons_iff.1 h with h | h
          · exact later (.inl (List.cons_prefix_cons.1 h).2)
          · exact later (.inr (.inr h))
        · exact here (.inr (.inr (.inl h)))

end Commas

/-- The body of an object derives one word for each member of a choice that leaves out optional ones
only, in their order and with a comma between each two. Every such choice of members and of
derivations for their words comes about in exactly one way. The text is empty only where no member
is required, and it has a comma at either end, or two in a row, only by a word that has one, a word
without characters apart. -/
theorem objectBody_exact (rules : List (String × Production)) (parts : List Part) :
    (∀ w, Derives rules (fun _ _ => True) (objectBody parts) w ↔
      ∃ us, Picks (fun m => Derives rules (fun _ _ => True) m.sequence) parts us ∧
        w = commaSeparated us) ∧
    (∃ e : Derivation rules (objectBody parts) ≃ Selection rules parts,
      ∀ d, Picks (fun m => Derives rules (fun _ _ => True) m.sequence) parts (e d).words ∧
        d.word = commaSeparated (e d).words ∧
        (d.word = [] → (∀ m ∈ parts, m.optional) ∨ (e d).words = [[]]) ∧
        (StrayComma d.word → ∃ u ∈ (e d).words, u = [] ∨ StrayComma u)) := by
  refine ⟨fun w => derives_objectBody, ?_⟩
  obtain ⟨e, he⟩ := matched_objectBody rules parts
  refine ⟨e, fun d => ?_⟩
  have text : d.word = commaSeparated (e d).words := (he d).symm
  rw [text]
  refine ⟨(e d).picks, rfl, fun empty => ?_, strayComma_commaSeparated⟩
  cases hw : (e d).words with
  | nil => exact .inl (by_contra fun required => (e d).picks.ne_nil required hw)
  | cons u us =>
    rw [hw, commaSeparated_cons, List.append_eq_nil_iff] at empty
    obtain ⟨rfl, none⟩ := empty
    cases us with
    | nil => exact .inr rfl
    | cons v vs => exact absurd none (List.cons_ne_nil _ _)

end FieldSchema.Grammar
