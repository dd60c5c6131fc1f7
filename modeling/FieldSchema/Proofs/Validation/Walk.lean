import FieldSchema.Validation.Walk
import Mathlib.Tactic.Tauto

/-! What a walk decides. It passes, or collects mismatches, or ends in an overflow; and two walks
one after the other decide what both decide. -/
namespace FieldSchema.Validation

namespace Walk

/-- Nothing was found and no number was too large. -/
def Passes (w : Walk) : Prop := w.overflowed = false ∧ w.violations = []

/-- A walk that overflows exactly if `large` and passes exactly if `fine` and not `large`. -/
structure Decides (w : Walk) (fine large : Prop) : Prop where
  overflows : w.overflowed = true ↔ large
  passes : w.Passes ↔ fine ∧ ¬ large

variable {a b : Walk} {fine large fine' large' : Prop}

@[simp] theorem overflowed_append : (a ++ b).overflowed = (a.overflowed || b.overflowed) := by
  rw [append_def]
  cases h : a.overflowed <;> simp [h]

theorem fits_append : (a ++ b).overflowed = false ↔
    a.overflowed = false ∧ b.overflowed = false := by
  rw [overflowed_append, Bool.or_eq_false_iff]

theorem passes_append : (a ++ b).Passes ↔ a.Passes ∧ b.Passes := by
  obtain ⟨v, r, o⟩ := a
  obtain ⟨v', r', o'⟩ := b
  cases o
  · simp [Passes, append_def]
    tauto
  · simp [Passes, append_def]

namespace Decides

theorem congr (h : Decides a fine large) (hf : fine' ↔ fine) (hl : large' ↔ large) :
    Decides a fine' large' := by
  rw [hf, hl]
  exact h

theorem clear : Decides .clear True False := ⟨by simp, by simp [Passes]⟩

theorem found (path : Path) (m : Mismatch) : Decides (found path m) False False :=
  ⟨by simp [Validation.found], by simp [Passes, Validation.found]⟩

theorem accept (hf : fine) (hl : ¬ large) : Decides .clear fine large :=
  clear.congr (iff_true_intro hf) (iff_false_intro hl)

theorem reject {path : Path} {m : Mismatch} (hf : ¬ fine) (hl : ¬ large) :
    Decides (Validation.found path m) fine large :=
  (found path m).congr (iff_false_intro hf) (iff_false_intro hl)

theorem expect (ok : Bool) (path : Path) (m : Mismatch) :
    Decides (expect ok path m) (ok = true) False := by
  cases ok with
  | true => exact clear.congr (by simp) Iff.rfl
  | false => exact (found path m).congr (by simp) Iff.rfl

theorem verdict (path : Path) (m : Mismatch) (r : Option Bool) :
    Decides (verdict path m r) (r = some true) (r = none) := by
  cases r with
  | none => exact ⟨by simp [Validation.verdict, overflow],
      by simp [Passes, Validation.verdict, overflow]⟩
  | some ok => exact (expect ok path m).congr (by simp) (by simp)

theorem verdict' {path : Path} {m : Mismatch} {r : Option Bool}
    (hf : r = some true ↔ fine ∧ ¬ large) (hl : r = none ↔ large) :
    Decides (Validation.verdict path m r) fine large :=
  ⟨(verdict path m r).overflows.trans hl, by
    rw [(verdict path m r).passes, hf, hl]
    tauto⟩

theorem append (ha : Decides a fine large) (hb : Decides b fine' large') :
    Decides (a ++ b) (fine ∧ fine') (large ∨ large') := by
  constructor
  · rw [overflowed_append, Bool.or_eq_true, ha.overflows, hb.overflows]
  · rw [passes_append, ha.passes, hb.passes]
    tauto

theorem concat {α : Type} {walk : α → Walk} {fine large : α → Prop} {items : List α}
    (h : ∀ x ∈ items, Decides (walk x) (fine x) (large x)) :
    Decides (.concat (items.map walk)) (∀ x ∈ items, fine x) (∃ x ∈ items, large x) := by
  induction items with
  | nil => exact clear.congr (by simp) (by simp)
  | cons x items ih =>
    obtain ⟨hx, hrest⟩ := List.forall_mem_cons.1 h
    exact (hx.append (ih hrest)).congr (by simp) (by simp)

end Decides
end Walk

end FieldSchema.Validation
