import FieldSchema.Proofs.Grammar.Language
import FieldSchema.Proofs.Grammar.Unambiguous

/-! The pattern for an item between two numbers of times, as the notation says it: which numbers of
the item it can be derived with, in how many ways, and what its text is. -/
namespace FieldSchema.Grammar

section Text

theorem render_optional_ne (p : Production) : (Item.optional p).render ≠ "" := by
  unfold Item.render
  split <;> simp_all

theorem renderSequence_cons_ne {i : Item} (h : i.render ≠ "") (s : Sequence) :
    renderSequence (i :: s) ≠ "" := by
  cases s with
  | nil => rwa [renderSequence]
  | cons j s =>
    rw [renderSequence]
    · simp
    · simp

theorem renderSequence_between {i : Item} (h : i.render ≠ "") (b : Bounds Nat) :
    renderSequence (between i b.low b.high) = "" ↔ b.high = 0 := by
  have ordered := b.ordered
  rw [between_eq]
  constructor
  · intro he
    cases hl : b.low with
    | succ low =>
      rw [hl, List.replicate_succ] at he
      exact absurd he (renderSequence_cons_ne h _)
    | zero =>
      cases hh : b.high with
      | zero => rfl
      | succ high =>
        rw [hl, hh, List.replicate_zero, List.nil_append, Nat.sub_zero, nested] at he
        exact absurd he (renderSequence_cons_ne (render_optional_ne _) [])
  · intro hh
    have hl : b.low = 0 := by omega
    rw [hl, hh]
    rfl

end Text

variable {rules : List (String × Production)}

theorem existsUnique_stringBody {b : Bounds Nat} {w : List Char} :
    (Span b w → ∃! d : Derivation rules (stringBody b), d.word = w) ∧
      (¬ Span b w → ∀ d : Derivation rules (stringBody b), d.word ≠ w) := by
  have spans : (∃ d : Derivation rules (stringBody b), d.word = w) ↔ Span b w :=
    exists_derivation_iff.trans derives_stringBody
  have filled : ∀ d : Derivation rules [.stringChar], d.word ≠ [] := by
    intro d
    obtain ⟨c, -, hc⟩ := (derives_stringChar d.word).1 d.derives
    simp [hc]
  have unambiguous : Function.Injective (derived rules (stringBody b)) :=
    (sharp_oneOf false _).between filled b.ordered
  constructor
  · intro hw
    obtain ⟨d, hd⟩ := spans.2 hw
    exact ⟨d, hd, fun e he => unambiguous (he.trans hd.symm)⟩
  · exact fun hw d hd => hw (spans.1 ⟨d, hd⟩)

/-- The pattern for an item between two numbers of times. Its text says what it is made of, and is
empty only if the item may not be there at all. A derivation uses the item a number of times between
the bounds and derives nothing else; and whatever derivations of the item are chosen, as many as the
bounds allow, one derivation of the pattern uses just these. So plain characters have one derivation
if they are as many as the bounds allow, and none otherwise. -/
theorem between_exact (b : Bounds Nat) (i : Item) :
    (Notation.ReadableItem Notation.RuleWord i →
      Notation.production? (renderSequence (between i b.low b.high)).toList =
        some [between i b.low b.high]) ∧
    (i.render ≠ "" → (renderSequence (between i b.low b.high) = "" ↔ b.high = 0)) ∧
    ∀ rules : List (String × Production),
      (∀ d : Derivation rules (between i b.low b.high),
        b.low ≤ (d.atoms i).length ∧ (d.atoms i).length ≤ b.high ∧
          d.word = (d.atoms i).flatMap Derivation.word) ∧
      (∀ as : List (Derivation rules [i]), b.low ≤ as.length → as.length ≤ b.high →
        ∃! d : Derivation rules (between i b.low b.high), d.atoms i = as) ∧
      ∀ w : List Char,
        (Span b w → ∃! d : Derivation rules (between .stringChar b.low b.high), d.word = w) ∧
        (¬ Span b w → ∀ d : Derivation rules (between .stringChar b.low b.high), d.word ≠ w) := by
  refine ⟨fun h => ?_, fun h => renderSequence_between h b, fun rules => ⟨fun d => ?_,
    fun as hl hh => (iterates_between b.ordered).existsUnique hl hh, fun w => ?_⟩⟩
  · have read := Notation.production?_render (readable_singleton.2 (sayable_between h b.low b.high))
    rwa [Production.render, renderAlternatives] at read
  · have all : Iterates rules i (between i b.low b.high) b.low b.high := iterates_between b.ordered
    exact ⟨(all.bounds d).1, (all.bounds d).2, all.word d⟩
  · exact existsUnique_stringBody

example : renderSequence (between (.ref "a") 1 3) = "a (a (a)?)?" := by decide

end FieldSchema.Grammar
