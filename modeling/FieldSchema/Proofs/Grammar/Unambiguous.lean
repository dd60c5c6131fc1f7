import FieldSchema.Proofs.Grammar.DigitRange
import FieldSchema.Proofs.Grammar.Readable
import FieldSchema.Proofs.Grammar.Tree

/-! Productions of which no text has two derivations. Alternatives that share no text are put
together without harm, and so is an item of fixed length in front of all of them; the digit patterns
of a number range are made in these two ways. -/
namespace FieldSchema.Grammar

section Words

variable {α β : Type} {f : α → List Char} {g : β → List Char}

/-- Two words are told apart if the text shows what the first one is. -/
theorem injective_append_of_split (hf : Function.Injective f) (hg : Function.Injective g)
    (split : ∀ a a' b b', f a ++ g b = f a' ++ g b' → f a = f a') :
    Function.Injective fun x : α × β => f x.1 ++ g x.2 := by
  intro ⟨a, b⟩ ⟨a', b'⟩ h
  have same : f a ++ g b = f a' ++ g b' := h
  have first := split a a' b b' same
  rw [first] at same
  exact Prod.ext (hf first) (hg (List.append_cancel_left same))

/-- Two words are told apart where the first one ends, if it is always of one length. -/
theorem injective_append (hf : Function.Injective f) (hg : Function.Injective g)
    (length : ∀ a a', (f a).length = (f a').length) :
    Function.Injective fun x : α × β => f x.1 ++ g x.2 :=
  injective_append_of_split hf hg fun a a' _ _ h => (List.append_inj h (length a a')).1

end Words

variable (rules : List (String × Production))

/-- No two derivations have the same text. -/
def Unambiguous (p : Production) : Prop := Function.Injective (chosen rules p)

/-- An item whose words all have one length, each with one derivation. -/
structure Sharp (i : Item) : Prop where
  injective : Function.Injective (derived rules [i])
  length : ∀ d e : Derivation rules [i], d.word.length = e.word.length

/-- No text is derived by both. -/
def Apart (p q : Production) : Prop := ∀ w, Produces rules (fun _ _ => True) p w →
  ¬ Produces rules (fun _ _ => True) q w

variable {rules} {i : Item} {s : Sequence} {p q : Production}

section Parts

theorem sharp_text (x : String) : Sharp rules (.text x) := by
  have only : ∀ d : Derivation rules [.text x], d = .text x .nil := by
    intro d
    cases d with
    | text x e => rw [e.eq_nil]
  refine ⟨fun d e _ => ?_, fun d e => ?_⟩ <;> rw [only d, only e]

theorem sharp_oneOf (inside : Bool) (ranges : List (Char × Char)) :
    Sharp rules (.oneOf inside ranges) := by
  refine ⟨fun d e h => ?_, fun d e => ?_⟩
  · cases d with
    | oneOf c hc d =>
      cases e with
      | oneOf c' hc' e =>
        obtain rfl := (List.cons.inj h).1
        rw [d.eq_nil, e.eq_nil]
  · cases d with
    | oneOf c hc d =>
      cases e with
      | oneOf c' hc' e => rw [d.eq_nil, e.eq_nil]; rfl

theorem sharp_digit (low high : Nat) : Sharp rules (digit low high) := by
  unfold digit
  split
  · exact sharp_text _
  · exact sharp_oneOf _ _

theorem injective_derived_nil : Function.Injective (derived rules []) :=
  fun d e _ => d.eq_nil.trans e.eq_nil.symm

theorem Sharp.cons (hi : Sharp rules i) (hs : Function.Injective (derived rules s)) :
    Function.Injective (derived rules (i :: s)) :=
  (matched_cons rules i s).injective (injective_append hi.injective hs hi.length)

/-- Every text with a number of items between two bounds tells what each item is. -/
theorem Sharp.between (hi : Sharp rules i) (filled : ∀ d : Derivation rules [i], d.word ≠ [])
    {low high : Nat} (h : low ≤ high) : Function.Injective (derived rules (between i low high)) :=
  (matched_between rules i h).injective (Row.word_injective hi.injective hi.length filled)

theorem Unambiguous.existsUnique {w : List Char} (h : Unambiguous rules p)
    (hw : Produces rules (fun _ _ => True) p w) : ∃! c : Choice rules p, c.word = w := by
  obtain ⟨c, hc⟩ := exists_choice_iff.2 hw
  exact ⟨c, hc, fun d hd => h (hd.trans hc.symm)⟩

theorem unambiguous_nil : Unambiguous rules [] := fun c => isEmptyElim c

theorem unambiguous_singleton (hs : Function.Injective (derived rules s)) :
    Unambiguous rules [s] :=
  (matched_choice rules s []).injective (hs.sumElim unambiguous_nil fun _ c => isEmptyElim c)

theorem Sharp.front (hi : Sharp rules i) (hp : Unambiguous rules p) :
    Unambiguous rules (p.map (i :: ·)) :=
  (matched_front rules i p).injective (injective_append hi.injective hp hi.length)

theorem Apart.append (h : Apart rules p q) (hp : Unambiguous rules p) (hq : Unambiguous rules q) :
    Unambiguous rules (p ++ q) := by
  refine (matched_alternatives rules p q).injective (hp.sumElim hq fun c d he => ?_)
  have same : c.word = d.word := he
  exact h c.word c.produces (same ▸ d.produces)

theorem unambiguous_flatMap {α : Type} {xs : List α} {f : α → Production}
    (each : ∀ x ∈ xs, Unambiguous rules (f x))
    (apart : xs.Pairwise fun x y => Apart rules (f x) (f y)) :
    Unambiguous rules (xs.flatMap f) := by
  induction xs with
  | nil => exact unambiguous_nil
  | cons x xs ih =>
    obtain ⟨hx, hxs⟩ := List.forall_mem_cons.1 each
    obtain ⟨first, others⟩ := List.pairwise_cons.1 apart
    rw [List.flatMap_cons]
    refine Apart.append (fun w hw hr => ?_) hx (ih hxs others)
    obtain ⟨y, hy, h⟩ := produces_flatMap.1 hr
    exact first y hy w hw h

end Parts

section Ranges

theorem Patterns.unambiguous {width : Nat} {numbers : Nat → Prop} (h : Patterns width numbers p) :
    Unambiguous rules p := by
  induction h with
  | done => exact unambiguous_singleton injective_derived_nil
  | none => exact unambiguous_nil
  | @front width low high rest p _ _ _ ih => exact (sharp_digit low high).front ih
  | @beside width numbers others p q disjoint hp hq ih₁ ih₂ =>
    refine Apart.append (fun w h h' => ?_) ih₁ ih₂
    obtain ⟨m, hmw, hm, rfl⟩ := hp.produces.1 h
    obtain ⟨n, hnw, hn, same⟩ := hq.produces.1 h'
    exact disjoint m hm (NumberLiteral.fixedDigits_inj hmw hnw same ▸ hn)
  | congr _ _ ih => exact ih

theorem unambiguous_band (low high : Nat) {width : Nat} (hw : width ≠ 0) :
    Unambiguous rules (band low high width) := by
  have unit : 0 < 10 ^ width := Nat.pow_pos (by omega)
  unfold band
  dsimp only
  generalize (if width = 1 then 0 else 10 ^ (width - 1)) = least
  split
  next h => exact (patterns_fixedWidth hw h (by omega)).unambiguous
  next => exact unambiguous_nil

theorem apart_band (low high : Nat) {m n : Nat} (h : m < n) (hm : m ≠ 0) :
    Apart rules (band low high m) (band low high n) := by
  obtain ⟨m, rfl⟩ := Nat.exists_eq_succ_of_ne_zero hm
  obtain ⟨n, rfl⟩ := Nat.exists_eq_succ_of_ne_zero (Nat.ne_of_gt (Nat.zero_lt_of_lt h))
  intro w hw hw'
  obtain ⟨k, -, -, first, rfl⟩ := produces_band.1 hw
  obtain ⟨l, -, -, second, same⟩ := produces_band.1 hw'
  rw [toDigits_injective same, second] at first
  omega

theorem unambiguous_naturalRange (low high : Nat) : Unambiguous rules (naturalRange low high) := by
  have pos : 0 < digitCount low := Nat.length_toDigits_pos
  refine unambiguous_flatMap (fun n _ => unambiguous_band low high (by omega)) ?_
  exact List.pairwise_lt_range.imp fun h => apart_band low high (by omega) (by omega)

theorem unambiguous_integerRange (low high : Int) : Unambiguous rules (integerRange low high) := by
  have negative : Unambiguous rules (if low < 0 then
      (naturalRange (-(min high (-1))).toNat (-low).toNat).map (minus :: ·) else []) := by
    split
    · exact (sharp_text "-").front (unambiguous_naturalRange _ _)
    · exact unambiguous_nil
  have natural : Unambiguous rules
      (if 0 ≤ high then naturalRange (max low 0).toNat high.toNat else []) := by
    split
    · exact unambiguous_naturalRange _ _
    · exact unambiguous_nil
  refine Apart.append (fun w h h' => ?_) negative natural
  split at h
  next =>
    split at h'
    next =>
      obtain ⟨u, v, rfl, hu, -⟩ := produces_map_cons.1 h
      obtain rfl := derives_minus.1 hu
      obtain ⟨n, -, -, same⟩ := produces_naturalRange.1 h'
      have digit : '-' ∈ Nat.toDigits 10 n := by rw [← same]; exact List.mem_cons_self
      exact absurd (isDigit_of_mem_toDigits digit) (by decide)
    next => exact produces_nil h'
  next => exact produces_nil h

end Ranges

end FieldSchema.Grammar
