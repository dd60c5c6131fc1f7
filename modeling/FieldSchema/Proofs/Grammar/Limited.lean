import FieldSchema.Grammar.Limited
import FieldSchema.Proofs.Grammar.Refusal
import FieldSchema.Proofs.Grammar.WrittenRange
import FieldSchema.Proofs.Number.Rounding
import FieldSchema.Proofs.Schema.Nesting
import FieldSchema.Proofs.Template.Composition

/-! Which artifacts a field has within limits. A compilation ends in an error for a text with a
delete character, for a call too many or for an item that is repeated too often, and for nothing
else. How many calls are nested, and how often items are repeated, can be told from the field. -/
namespace FieldSchema

namespace Grammar

open WrittenNumber (ofInt)

def wholeOf (b : Bounds Finite64) : Nat :=
  max b.low.magnitude b.high.magnitude / Finite64.unitsPerOne

def digitCalls : Field → Nat
  | .integer _ b => rangeNesting b.low b.high
  | .real _ b => rangeNesting 0 (wholeOf b)
  | _ => 0

/-- How many calls are nested for a field itself and for the digits of its numbers. -/
def compileCalls (member : Bool) (f : Field) : Nat := ownCalls member f + digitCalls f

/-- Why some fields cannot be compiled, if that nests so many calls and so many are left. -/
inductive Fault (limits : Limits) (fields : List Field) (nested calls : Nat) : Failure → Prop where
  | refused (g : Field) (s : String) : g ∈ fields → s ∈ g.texts → '\x7f' ∈ s.toList →
      Fault limits fields nested calls (.refused (.controlCharacter (Json.string s).text))
  | tooDeep : calls < nested → Fault limits fields nested calls .tooDeep
  | tooLong (g : Field) (n : Nat) : g ∈ fields → n ∈ copies g → limits.items < n →
      Fault limits fields nested calls .tooLong

/-- What lets some fields be compiled, if that nests so many calls and so many are left. -/
structure Compilable (limits : Limits) (fields : List Field) (nested calls : Nat) : Prop where
  clean : ∀ g ∈ fields, ∀ s ∈ g.texts, '\x7f' ∉ s.toList
  shallow : nested ≤ calls
  short : ∀ g ∈ fields, ∀ n ∈ copies g, n ≤ limits.items

/-- A check passes only fields that fit, and its errors are faults of theirs. -/
structure Vets (limits : Limits) (fields : List Field) (nested calls : Nat)
    (x : Except Failure Unit) : Prop where
  passes : x = .ok () → Compilable limits fields nested calls
  fails : ∀ e, x = .error e → Fault limits fields nested calls e

section Vets

variable {limits : Limits} {fields more : List Field} {m n calls left : Nat} {e : Failure}
  {x y : Except Failure Unit}

theorem Fault.mono (h : Fault limits fields m left e) (sub : fields ⊆ more)
    (deep : left < m → calls < n) : Fault limits more n calls e := by
  cases h with
  | refused g s hg hs hd => exact .refused g s (sub hg) hs hd
  | tooDeep less => exact .tooDeep (deep less)
  | tooLong g k hg hk less => exact .tooLong g k (sub hg) hk less

theorem Compilable.mono (h : Compilable limits more m left) (sub : fields ⊆ more)
    (shallow : m ≤ left → n ≤ calls) : Compilable limits fields n calls :=
  ⟨fun g hg => h.clean g (sub hg), shallow h.shallow, fun g hg => h.short g (sub hg)⟩

theorem Compilable.not_fault (h : Compilable limits fields n calls) :
    ¬ Fault limits fields n calls e := by
  intro fault
  cases fault with
  | refused g s hg hs hd => exact h.clean g hg s hs hd
  | tooDeep less => exact Nat.not_lt.2 h.shallow less
  | tooLong g k hg hk less => exact Nat.not_lt.2 (h.short g hg k hk) less

theorem Vets.perm (h : Vets limits fields n calls x) (same : fields.Perm more) :
    Vets limits more n calls x :=
  ⟨fun ok => (h.passes ok).mono same.symm.subset id,
    fun e error => (h.fails e error).mono same.subset id⟩

theorem Vets.seq (hx : Vets limits fields m calls x) (hy : Vets limits more n calls y) :
    Vets limits (fields ++ more) (max m n) calls (x >>= fun _ => y) := by
  cases x with
  | error e =>
    refine ⟨nofun, fun _ h => Except.error.inj h ▸ (hx.fails e rfl).mono ?_ fun less => ?_⟩
    · exact List.subset_append_left _ _
    · exact lt_of_lt_of_le less (Nat.le_max_left _ _)
  | ok =>
    refine ⟨fun h => ?_, fun e h => (hy.fails e h).mono ?_ fun less => ?_⟩
    · have first := hx.passes rfl
      have second := hy.passes h
      exact ⟨List.forall_mem_append.2 ⟨first.clean, second.clean⟩,
        Nat.max_le.2 ⟨first.shallow, second.shallow⟩,
        List.forall_mem_append.2 ⟨first.short, second.short⟩⟩
    · exact List.subset_append_right _ _
    · exact lt_of_lt_of_le less (Nat.le_max_right _ _)

theorem Vets.descend {own : Nat} {k : Nat → Except Failure Unit}
    (h : ∀ left, Vets limits fields n left (k left)) :
    Vets limits fields (own + n) calls (descend own calls >>= k) := by
  unfold Grammar.descend
  split
  next enough =>
    refine ⟨fun ok => ?_, fun e error => ?_⟩
    · exact ((h (calls - own)).passes ok).mono (List.Subset.refl _) (by omega)
    · exact ((h (calls - own)).fails e error).mono (List.Subset.refl _) (by omega)
  next less =>
    refine ⟨nofun, fun _ h => Except.error.inj h ▸ .tooDeep ?_⟩
    exact Nat.lt_of_lt_of_le (Nat.lt_of_not_le less) (Nat.le_add_right _ _)

end Vets

section Own

variable {limits : Limits} {calls : Nat} {f : Field}

theorem legible_wholeOf (b : Bounds Finite64) : Legible (wholeOf b) := by
  have most : ∀ x : Finite64, x.magnitude ≤ Finite64.unitsAt (2047 * 2 ^ 52 - 1) :=
    fun x => unitsAt_mono (Nat.le_pred_of_lt x.position.isLt)
  have largest : Legible (Finite64.unitsAt (2047 * 2 ^ 52 - 1) / Finite64.unitsPerOne : Nat) := by
    decide +kernel
  have zero : Legible 0 := by decide
  refine zero.between largest (Int.natCast_nonneg _) (Int.ofNat_le.2 ?_)
  exact Nat.div_le_div_right (Nat.max_le.2 ⟨most _, most _⟩)

theorem Compilable.single (clean : ∀ s ∈ f.texts, '\x7f' ∉ s.toList)
    (shallow : digitCalls f ≤ calls) (short : ∀ n ∈ copies f, n ≤ limits.items) :
    Compilable limits [f] (digitCalls f) calls :=
  ⟨List.forall_mem_singleton.2 clean, shallow, List.forall_mem_singleton.2 short⟩

theorem vets_range {low high : Int} (hl : Legible low) (hh : Legible high)
    (digits : digitCalls f = rangeNesting low high) (texts : f.texts = []) (short : copies f = []) :
    Vets limits [f] (digitCalls f) calls (checkRange calls low high) := by
  rw [checkRange, writtenRange_ofInt calls hl hh, ← digits]
  cases answer : granted calls (digitCalls f) (integerRange low high) with
  | ok p =>
    obtain ⟨fits, -⟩ := granted_eq_ok_iff.1 answer
    exact ⟨fun _ => .single (by simp [texts]) fits (by simp [short]), by simp⟩
  | error fault =>
    obtain ⟨less, rfl⟩ := granted_eq_error_iff.1 answer
    exact ⟨by simp, fun _ h => Except.error.inj h ▸ .tooDeep less⟩

theorem vets_copies (texts : f.texts = []) (digits : digitCalls f = 0) :
    Vets limits [f] (digitCalls f) calls (checkCopies limits (copies f)) := by
  unfold checkCopies
  split
  next few =>
    exact ⟨fun _ => .single (by simp [texts]) (by simp [digits]) (by simpa using few), nofun⟩
  next many =>
    obtain ⟨n, hn, less⟩ : ∃ n ∈ copies f, limits.items < n := by simpa using many
    exact ⟨nofun, fun _ h => Except.error.inj h ▸ .tooLong f n List.mem_cons_self hn less⟩

theorem vets_values {α : Type} {x : Except GrammarError α} (digits : digitCalls f = 0)
    (short : copies f = []) (passes : ∀ a, x = .ok a → ∀ v ∈ f.scalars, v.Spellable)
    (fails : ∀ e, x = .error e → Fault limits [f] (digitCalls f) calls (.refused e)) :
    Vets limits [f] (digitCalls f) calls (refuse x) := by
  cases x with
  | ok a =>
    have clean : ∀ s ∈ f.texts, '\x7f' ∉ s.toList :=
      fun s hs => passes a rfl _ (Field.mem_texts.1 hs)
    exact ⟨fun _ => .single clean (by simp [digits]) (by simp [short]), nofun⟩
  | error e => exact ⟨nofun, fun _ h => Except.error.inj h ▸ fails e rfl⟩

theorem vets_own (legible : ∀ n ∈ f.integers, Legible n) :
    Vets limits [f] (digitCalls f) calls (checkOwn limits calls f) := by
  have admitted : ∀ v ∈ f.scalars,
      Admits (fun e => Fault limits [f] (digitCalls f) calls (.refused e)) v := by
    intro v hv unspelled
    cases v with
    | int n => exact absurd (legible n (Field.mem_integers.2 hv)) unspelled
    | real => exact absurd trivial unspelled
    | text s =>
      exact .refused f s List.mem_cons_self (Field.mem_texts.2 hv) (not_not.1 unspelled)
  cases f with
  | integer label b =>
    have low : Legible b.low := legible _ List.mem_cons_self
    have high : Legible b.high := legible _ (List.mem_cons_of_mem _ List.mem_cons_self)
    have bounds : checkBounds b = .ok () := checkBounds_eq_ok.2 ⟨low, high⟩
    rw [checkOwn, bounds]
    exact vets_range low high rfl rfl rfl
  | real label b =>
    have zero : Legible 0 := by decide
    have whole := legible_wholeOf b
    have digits : digitCalls (.real label b) = rangeNesting 0 (wholeOf b) := rfl
    rw [checkOwn]
    rw [wholeOf] at whole digits
    exact vets_range zero whole digits rfl rfl
  | constant label value =>
    refine vets_values rfl rfl (fun item hi => ?_)
      fun _ => scalarLiteral_error (admitted value List.mem_cons_self)
    exact List.forall_mem_singleton.2 (scalarLiteral_isOk_iff.1 ⟨item, hi⟩)
  | choice label options =>
    refine vets_values rfl rfl (fun items hi v hv => ?_) fun _ => mapM_error admitted
    exact scalarLiteral_isOk_iff.1 ((mapM_scalarLiteral hi).2 v hv)
  | _ => exact vets_copies rfl rfl

end Own

section Tree

variable {limits : Limits}

/-- A check goes down to the fields below, checks them one by one, and then the field itself. -/
theorem checkField_eq (limits : Limits) (member : Bool) (calls : Nat) (f : Field) :
    checkField limits member calls f =
      descend (ownCalls member f) calls >>= fun left =>
      checkAll limits f.hasMembers left f.children >>= fun _ => checkOwn limits left f := by
  have one : ∀ left g, checkAll limits false left [g] = checkField limits false left g := by
    intro left g
    rw [checkAll]
    cases checkField limits false left g <;> rfl
  unfold checkField
  cases descend (ownCalls member f) calls with
  | error e => rfl
  | ok left =>
    cases f with
    | array label element b =>
      exact congrArg (· >>= fun _ => checkOwn limits left _) (one left element).symm
    | optional label inner =>
      exact congrArg (· >>= fun _ => checkOwn limits left _) (one left inner).symm
    | _ => rfl

theorem vets_all {fields : List Field} (member : Bool) (calls : Nat)
    (h : ∀ f ∈ fields, Vets limits f.preorder (f.nestedCalls compileCalls member) calls
      (checkField limits member calls f)) :
    Vets limits (fields.flatMap Field.preorder) (Field.nestedCallsBelow compileCalls member fields)
      calls (checkAll limits member calls fields) := by
  induction fields with
  | nil => exact ⟨fun _ => ⟨nofun, Nat.zero_le _, nofun⟩, nofun⟩
  | cons f rest ih =>
    obtain ⟨first, others⟩ := List.forall_mem_cons.1 h
    rw [checkAll, List.flatMap_cons, Field.nestedCallsBelow]
    exact first.seq (ih others)

theorem nestedCalls_compileCalls (member : Bool) (f : Field) : f.nestedCalls compileCalls member =
    ownCalls member f +
      max (Field.nestedCallsBelow compileCalls f.hasMembers f.children) (digitCalls f) := by
  rw [Field.nestedCalls_eq, compileCalls]
  -- A field with numbers has no fields below, so that one of the two is nothing.
  have one : digitCalls f = 0 ∨ f.children = [] := by
    cases f <;> simp [digitCalls, Field.children]
  rcases one with none | none <;> rw [none]
  · rw [Nat.add_zero, Nat.max_zero]
  · rw [Field.nestedCallsBelow, Nat.zero_max, Nat.add_zero]

theorem vets_field (f : Field) (legible : ∀ g ∈ f.preorder, ∀ n ∈ g.integers, Legible n)
    (member : Bool) (calls : Nat) :
    Vets limits f.preorder (f.nestedCalls compileCalls member) calls
      (checkField limits member calls f) := by
  induction f using Field.induct_children generalizing member calls with
  | step f ih =>
    have below := Field.closed_preorder _ f legible
    rw [checkField_eq, nestedCalls_compileCalls, Field.preorder_eq]
    refine .descend fun left => ?_
    -- The field itself is checked last, though it comes first in preorder.
    have under := vets_all f.hasMembers left fun g hg => ih g hg (below g hg) f.hasMembers left
    exact (under.seq (vets_own (legible f f.mem_preorder_self))).perm List.perm_append_comm

theorem ownCalls_le (member : Bool) (f : Field) : ownCalls member f ≤ 6 := by
  cases f with
  | optional =>
    rw [ownCalls]
    split <;> omega
  | _ => exact Nat.le_of_ble_eq_true rfl

theorem compileCalls_le {f : Field} (legible : ∀ n ∈ f.integers, Legible n) (member : Bool) :
    compileCalls member f ≤ if f.children = [] then 6 + Json.digitLimit else 6 := by
  have own := ownCalls_le member f
  have digits : digitCalls f ≤ if f.children = [] then Json.digitLimit else 0 := by
    cases f with
    | integer label b =>
      have low : Legible b.low := legible _ List.mem_cons_self
      have high : Legible b.high := legible _ (List.mem_cons_of_mem _ List.mem_cons_self)
      exact (rangeNesting_le _ _).trans (Nat.max_le.2 ⟨low, high⟩)
    | real label b =>
      have zero : Legible 0 := by decide
      exact (rangeNesting_le _ _).trans (Nat.max_le.2 ⟨zero, legible_wholeOf b⟩)
    | _ => exact Nat.zero_le _
  rw [compileCalls]
  by_cases leaf : f.children = []
  · rw [if_pos leaf] at digits ⊢
    omega
  · rw [if_neg leaf] at digits ⊢
    omega

end Tree

end Grammar

namespace Field

/-- How many calls a compilation nests, down to the digits of the numbers. -/
def grammarNesting (f : Field) : Nat := f.nestedCalls Grammar.compileCalls false

end Field

section Artifacts

variable {f : Field} {limits : Limits}

open Grammar

theorem spellable_of_clean (hf : f.Writable)
    (clean : ∀ g ∈ f.preorder, ∀ s ∈ g.texts, '\x7f' ∉ s.toList) : f.Spellable := by
  intro g hg v hv
  cases v with
  | int n => exact hf.legible hg (Field.mem_integers.2 hv)
  | real => trivial
  | text s => exact clean g hg s (Field.mem_texts.2 hv)

theorem grammarWithin_eq (hf : f.Writable) (limits : Limits) :
    (∃ g, f.grammar = .ok g ∧ f.grammarWithin limits = .ok g ∧
      Compilable limits f.preorder f.grammarNesting limits.calls) ∨
    ∃ e, f.grammarWithin limits = .error e ∧
      Fault limits f.preorder f.grammarNesting limits.calls e := by
  have vets : Vets limits f.preorder f.grammarNesting limits.calls
      (checkField limits false limits.calls f) :=
    vets_field f (fun g hg n hn => hf.legible hg hn) false limits.calls
  unfold Field.grammarWithin
  cases checked : checkField limits false limits.calls f with
  | error e => exact .inr ⟨e, rfl, vets.fails e checked⟩
  | ok =>
    have fits := vets.passes checked
    obtain ⟨g, hg⟩ := grammar_isOk_iff.2 (spellable_of_clean hf fits.clean)
    rw [hg]
    exact .inl ⟨g, rfl, rfl, fits⟩

/-- A field whose integers can be written has a grammar exactly if no text of it holds a delete
character and the compilation stays within the limits, and one of these is wrong whenever there is
none. It has a template and hints whenever they nest few enough calls. The calls that are nested are
few for each field of the tree. -/
theorem artifacts_within (hf : f.Writable) (limits : Limits) (layout : Json.Layout) :
    ((∃ g, f.grammarWithin limits = .ok g) ↔
      Compilable limits f.preorder f.grammarNesting limits.calls) ∧
    (∀ g, f.grammarWithin limits = .ok g → f.grammar = .ok g) ∧
    (∀ e, f.grammarWithin limits = .error e →
      Fault limits f.preorder f.grammarNesting limits.calls e) ∧
    ((∃ text, f.templateWithin limits layout = .ok text) ↔ f.templateNesting ≤ limits.calls) ∧
    ((∃ text, f.hintsWithin? limits = some text) ↔ f.hintNesting ≤ limits.calls) ∧
    f.grammarNesting ≤ 6 * f.preorder.length + Json.digitLimit ∧
    f.templateNesting ≤ 2 * f.preorder.length ∧ f.hintNesting ≤ f.preorder.length := by
  refine ⟨?_, fun g hg => ?_, fun e he => ?_, ?_, ?_, ?_, ?_, ?_⟩
  · obtain ⟨g, -, within, fits⟩ | ⟨e, error, fault⟩ := grammarWithin_eq hf limits
    · exact iff_of_true ⟨g, within⟩ fits
    · rw [error]
      exact iff_of_false nofun fun fits => fits.not_fault fault
  · obtain ⟨g', compiled, within, -⟩ | ⟨e, error, -⟩ := grammarWithin_eq hf limits
    · rwa [Except.ok.inj (hg.symm.trans within)]
    · exact absurd (hg.symm.trans error) nofun
  · obtain ⟨g, -, within, -⟩ | ⟨e', error, fault⟩ := grammarWithin_eq hf limits
    · exact absurd (he.symm.trans within) nofun
    · rwa [Except.error.inj (he.symm.trans error)]
  · rw [Field.templateWithin, Field.writtenTemplate_eq_ok_iff.2 ⟨hf, rfl⟩]
    split
    next deep => exact iff_of_false nofun (Nat.not_le.2 deep)
    next enough => exact iff_of_true ⟨_, rfl⟩ (Nat.le_of_not_lt enough)
  · rw [Field.hintsWithin?]
    split
    next deep => exact iff_of_false nofun (Nat.not_le.2 deep)
    next enough => exact iff_of_true ⟨_, rfl⟩ (Nat.le_of_not_lt enough)
  · have few : ∀ g ∈ f.preorder, ∀ member, compileCalls member g ≤ _ :=
      fun g hg member => compileCalls_le (fun n hn => hf.legible hg hn) member
    exact Field.nestedCalls_le few false
  · have few : ∀ g, Template.ownCalls g ≤ 2 := by
      intro g
      cases g <;> exact Nat.le_of_ble_eq_true rfl
    exact Field.nestedCalls_le (n := 0) (fun g _ _ => (few g).trans (by simp)) false
  · have one : f.hintNesting ≤ 1 * f.preorder.length + 0 :=
      Field.nestedCalls_le (fun _ _ _ => by simp) false
    rwa [Nat.one_mul, Nat.add_zero] at one

end Artifacts

def reply (word : String) : Field := .object ⟨"reply", none, by decide, by decide⟩
  [.integer ⟨"number", none, by decide, by decide⟩ ⟨-5, 10 ^ 20, by decide⟩,
    .optional ⟨"answer", none, by decide, by decide⟩
      (.choice ⟨"either", none, by decide, by decide⟩ (.texts ["yes", word]))]

/-- One word has a grammar and the other one has none; and with fewer calls neither has one. -/
theorem reply_within : (reply "\"n\no").Writable ∧ (reply "\u007fno").Writable ∧
    (∃ g, (reply "\"n\no").grammarWithin .standard = .ok g) ∧
    (∃ text, (reply "\"n\no").templateWithin .standard .inline = .ok text) ∧
    (¬ ∃ g, (reply "\"n\no").grammarWithin ⟨29, 0⟩ = .ok g) ∧
    ¬ ∃ g, (reply "\u007fno").grammarWithin .standard = .ok g := by
  have written : (reply "\"n\no").Writable := by
    unfold Field.Writable
    decide
  have unwritten : (reply "\u007fno").Writable := by
    unfold Field.Writable
    decide
  have nested : (reply "\"n\no").grammarNesting = 30 := by decide +kernel
  obtain ⟨compiles, -, -, template, -⟩ := artifacts_within written .standard .inline
  refine ⟨written, unwritten, compiles.2 ⟨by decide, ?_, by decide⟩, template.2 (by decide), ?_, ?_⟩
  · rw [nested]
    decide
  · intro grammar
    have fits := (artifacts_within written ⟨29, 0⟩ .inline).1.1 grammar
    exact absurd (nested ▸ fits.shallow) (by decide)
  · intro grammar
    have fits := (artifacts_within unwritten .standard .inline).1.1 grammar
    exact absurd fits.clean (by decide)

/-- A constant that can be built, without any integers in it, has no grammar. -/
theorem delete_constant_refused :
    let f := Field.constant ⟨"c", none, by decide, by decide⟩ (.text "\x7f")
    Constructed f ∧ f.Writable ∧
      f.grammarWithin .standard = .error (.refused (.controlCharacter "\"\x7f\"")) :=
  ⟨Field.WellFormed.constructed (.constant _ _), by unfold Field.Writable; decide, rfl⟩

end FieldSchema
