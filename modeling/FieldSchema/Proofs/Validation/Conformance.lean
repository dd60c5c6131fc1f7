import FieldSchema.Proofs.Schema.Members
import FieldSchema.Proofs.Validation.Walk
import FieldSchema.Validation.Document

/-! What it means that a value conforms to a field, and that the walk finds out. The walk is cut
short only where an integer would have to be compared with a double and is larger than all of them.
-/
namespace FieldSchema.Validation

/-- A value that counts as the demanded one, of its kind. A double is matched within a tolerance. -/
inductive Matches : Json → Scalar → Prop where
  | int (n : Int) : Matches (.int n) (.int n)
  | text (s : String) : Matches (.string s) (.text s)
  | real {x y : Finite64} : y.isClose x → Matches (.real y) (.real x)
  | realOfInt {n : Int} {x y : Finite64} : Binary64.ofInt? n = some y → y.isClose x →
    Matches (.int n) (.real x)

theorem matches_int_iff {k n : Int} : Matches (.int k) (.int n) ↔ k = n := by
  constructor
  · intro h
    cases h
    rfl
  · rintro rfl
    exact .int k

theorem matches_string_iff {t : Text} {s : String} :
    Matches (.string t) (.text s) ↔ t = Text.ofString s := by
  constructor
  · intro h
    cases h
    rfl
  · rintro rfl
    exact .text s

theorem matches_toJson (value : Scalar) : Matches value.toJson value := by
  cases value with
  | int n => exact .int n
  | real x => exact .real x.isClose_self
  | text s => exact .text s

/-- Among integers and strings only the demanded value itself matches. -/
theorem Matches.eq_toJson {v : Json} {value : Scalar} (h : Matches v value)
    (hx : ∀ x, value = .real x → v = .real x) : v = value.toJson := by
  cases h with
  | int n => rfl
  | text s => rfl
  | real => exact hx _ rfl
  | realOfInt => exact hx _ rfl

/-- Whether a value is one that a schema describes, said without reference to a walk. -/
inductive Conforms : Json → Field → Prop where
  | integer {label : Label} {b : Bounds Int} {n : Int} : b.low ≤ n → n ≤ b.high →
    Conforms (.int n) (.integer label b)
  | real {label : Label} {b : Bounds Finite64} {x : Finite64} : b.low ≤ x → x ≤ b.high →
    Conforms (.real x) (.real label b)
  | realOfInt {label : Label} {b : Bounds Finite64} {n : Int} :
    b.low.units ≤ n * Finite64.unitsPerOne → n * Finite64.unitsPerOne ≤ b.high.units →
    Conforms (.int n) (.real label b)
  | string {label : Label} {b : Bounds Nat} {s : Text} : b.low ≤ s.length → s.length ≤ b.high →
    Conforms (.string s) (.string label b)
  | boolean {label : Label} {v : Bool} : Conforms (.bool v) (.boolean label)
  | constant {label : Label} {v : Json} {value : Scalar} : Matches v value →
    Conforms v (.constant label value)
  | choice {label : Label} {v : Json} {options : Options} {value : Scalar} :
    value ∈ options.scalars → Matches v value → Conforms v (.choice label options)
  | template {label : Label} {p : Pattern} {b : Bounds Nat} {span : Text} :
    b.low ≤ span.length → span.length ≤ b.high →
    Conforms (.string (Text.ofString p.before ++ span ++ Text.ofString p.after))
      (.template label p b)
  | object {label : Label} {fields : List Field} {members : List (Text × Json)} :
    (∀ f ∈ fields, f.isOptional = false → (members.lookup (Text.ofString f.name)).isSome) →
    (∀ f ∈ fields, ∀ v, members.lookup (Text.ofString f.name) = some v →
      Conforms v f.memberField) →
    (∀ m ∈ members, ∃ f ∈ fields, Text.ofString f.name = m.1) →
    Conforms (.object members) (.object label fields)
  | variant {label : Label} {alternatives : List Field} {members : List (Text × Json)} {f : Field} :
    f ∈ alternatives → Conforms (.object members) f →
    Conforms (.object members) (.variant label alternatives)
  | array {label : Label} {element : Field} {b : Bounds Nat} {items : List Json} :
    b.low ≤ items.length → items.length ≤ b.high → (∀ v ∈ items, Conforms v element) →
    Conforms (.array items) (.array label element b)
  | null {label : Label} {inner : Field} : Conforms .null (.optional label inner)
  | optional {label : Label} {v : Json} {inner : Field} : Conforms v inner →
    Conforms v (.optional label inner)

/-- An integer beyond all doubles. -/
def TooLarge (v : Json) : Prop := ∃ n, v = .int n ∧ Binary64.ofInt? n = none

/-- Whether the walk meets an integer beyond all doubles where a double is called for. Alternatives
after one that conforms are not tried. -/
inductive Overflows : Json → Field → Prop where
  | real {label : Label} {b : Bounds Finite64} {v : Json} : TooLarge v →
    Overflows v (.real label b)
  | constant {label : Label} {x : Finite64} {v : Json} : TooLarge v →
    Overflows v (.constant label (.real x))
  | choice {label : Label} {xs : List Finite64} {v : Json} : TooLarge v → xs ≠ [] →
    Overflows v (.choice label (.reals xs))
  | object {label : Label} {fields : List Field} {members : List (Text × Json)} {f : Field}
    {v : Json} : f ∈ fields → members.lookup (Text.ofString f.name) = some v →
    Overflows v f.memberField → Overflows (.object members) (.object label fields)
  | variant {label : Label} {before after : List Field} {members : List (Text × Json)} {f : Field} :
    (∀ g ∈ before, ¬ Conforms (.object members) g) → Overflows (.object members) f →
    Overflows (.object members) (.variant label (before ++ f :: after))
  | array {label : Label} {element : Field} {b : Bounds Nat} {items : List Json} {v : Json} :
    v ∈ items → Overflows v element → Overflows (.array items) (.array label element b)
  | optional {label : Label} {v : Json} {inner : Field} : Overflows v inner →
    Overflows v (.optional label inner)

theorem Overflows.variant_head {label : Label} {f : Field} {rest : List Field}
    {members : List (Text × Json)} (h : Overflows (.object members) f) :
    Overflows (.object members) (.variant label (f :: rest)) :=
  .variant (List.forall_mem_nil _) h

section Numbers

variable {v : Json} {n : Numeric}

theorem closeTo?_spec (h : v.numeric? = some n) (x : Finite64) :
    (closeTo? x n = some true ↔ Matches v (.real x)) ∧ (closeTo? x n = none ↔ TooLarge v) := by
  cases v with
  | int k =>
    obtain rfl := Option.some.inj h
    rw [closeTo?, Option.map_eq_some_iff, Option.map_eq_none_iff]
    refine ⟨⟨fun ⟨y, hy, hc⟩ => .realOfInt hy hc, fun h => ?_⟩, ?_⟩
    · cases h with
      | realOfInt hy hc => exact ⟨_, hy, hc⟩
    · simp [TooLarge]
  | real y =>
    obtain rfl := Option.some.inj h
    have small : ¬ TooLarge (.real y) := fun ⟨_, h, _⟩ => absurd h nofun
    cases y with
    | finite y =>
      refine ⟨⟨fun h => .real (Option.some.inj h), fun h => ?_⟩, iff_of_false nofun small⟩
      cases h with
      | real hc => exact congrArg some hc
    | infinite | nan =>
      exact ⟨iff_of_false (by simp [closeTo?]) nofun, iff_of_false (by simp [closeTo?]) small⟩
  | _ => exact absurd h nofun

theorem closeToAny?_spec (h : v.numeric? = some n) (xs : List Finite64) :
    (closeToAny? n xs = some true ↔ ∃ x ∈ xs, Matches v (.real x)) ∧
      (closeToAny? n xs = none ↔ TooLarge v ∧ xs ≠ []) := by
  induction xs with
  | nil => simp [closeToAny?]
  | cons x xs ih =>
    obtain ⟨yes, large⟩ := closeTo?_spec h x
    rw [closeToAny?]
    cases hc : closeTo? x n with
    | none =>
      have tooLarge := large.1 hc
      have none_ : ∀ y, ¬ Matches v (.real y) := by
        intro y hy
        have other := closeTo?_spec h y
        rw [other.2.2 tooLarge] at other
        exact absurd (other.1.2 hy) nofun
      simp [none_, tooLarge]
    | some b =>
      have small : ¬ TooLarge v := fun ht => by simp [large.2 ht] at hc
      rw [hc] at yes
      cases b with
      | true =>
        refine ⟨iff_of_true rfl ⟨x, by simp, yes.1 rfl⟩, ?_⟩
        simp [small]
      | false =>
        have other : ¬ Matches v (.real x) := fun hx => absurd (yes.2 hx) (by simp)
        dsimp only
        rw [ih.1, ih.2]
        simp [small, other]

theorem withinReal?_spec (h : v.numeric? = some n) (label : Label) (b : Bounds Finite64) :
    (withinReal? b n = some true ↔ Conforms v (.real label b) ∧ ¬ TooLarge v) ∧
      (withinReal? b n = none ↔ TooLarge v) := by
  cases v with
  | int k =>
    obtain rfl := Option.some.inj h
    have large : TooLarge (.int k) ↔ Binary64.ofInt? k = none := by simp [TooLarge]
    have between : (!Numeric.lt k b.low && !Numeric.lt b.high k) = true ↔
        Conforms (.int k) (.real label b) := by
      have low : Numeric.lt k b.low = decide (k * Finite64.unitsPerOne < b.low.units) :=
        Numeric.lt_eq_decide rfl rfl
      have high : Numeric.lt b.high k = decide (b.high.units < k * Finite64.unitsPerOne) :=
        Numeric.lt_eq_decide rfl rfl
      rw [low, high]
      simp only [Bool.and_eq_true, Bool.not_eq_true', decide_eq_false_iff_not, Int.not_lt]
      constructor
      · intro ⟨hl, hh⟩
        exact .realOfInt hl hh
      · intro h
        cases h with
        | realOfInt hl hh => exact ⟨hl, hh⟩
    rw [large, withinReal?]
    cases hk : Binary64.ofInt? k with
    | none => simp
    | some y => simp only [Option.map_some, Option.some.injEq, between]; simp
  | real y =>
    obtain rfl := Option.some.inj h
    have small : ¬ TooLarge (.real y) := fun ⟨_, h, _⟩ => absurd h nofun
    cases y with
    | finite y =>
      refine ⟨?_, iff_of_false nofun small⟩
      rw [withinReal?]
      simp only [Option.some.injEq, Bool.and_eq_true, decide_eq_true_eq, small, not_false_eq_true,
        and_true]
      constructor
      · intro ⟨hl, hh⟩
        exact .real hl hh
      · intro h
        cases h with
        | real hl hh => exact ⟨hl, hh⟩
    | infinite | nan =>
      exact ⟨iff_of_false (by simp [withinReal?]) nofun, iff_of_false (by simp [withinReal?]) small⟩
  | _ => exact absurd h nofun

end Numbers

section Scalars

theorem not_overflows_null (f : Field) : ¬ Overflows .null f := by
  intro h
  generalize hv : Json.null = v at h
  induction h with
  | optional _ ih => exact ih hv
  | real h | constant h | choice h =>
    obtain ⟨n, hn, -⟩ := h
    rw [← hv] at hn
    exact absurd hn nofun
  | _ => exact absurd hv nofun

theorem decides_real (path : Path) (v : Json) (label : Label) (b : Bounds Finite64) :
    (check path v (.real label b)).Decides (Conforms v (.real label b))
      (Overflows v (.real label b)) := by
  have large : Overflows v (.real label b) ↔ TooLarge v := by
    constructor
    · intro h
      cases h
      assumption
    · exact .real
  rw [large, check]
  split
  next n hn =>
    obtain ⟨yes, undecided⟩ := withinReal?_spec hn label b
    exact .verdict' yes undecided
  next hn =>
    refine .reject (fun h => ?_) fun ⟨n, h, _⟩ => ?_
    · cases h <;> simp [Json.numeric?] at hn
    · simp [h, Json.numeric?] at hn

theorem conforms_constant_iff {v : Json} {label : Label} {value : Scalar} :
    Conforms v (.constant label value) ↔ Matches v value := by
  constructor
  · intro h
    cases h
    assumption
  · exact .constant

theorem overflows_constant_iff {v : Json} {label : Label} {x : Finite64} :
    Overflows v (.constant label (.real x)) ↔ TooLarge v := by
  constructor
  · intro h
    cases h
    assumption
  · exact .constant

theorem decides_constant (path : Path) (v : Json) (label : Label) (value : Scalar) :
    (checkConstant path v value).Decides (Conforms v (.constant label value))
      (Overflows v (.constant label value)) := by
  rw [conforms_constant_iff]
  unfold checkConstant
  dsimp only
  split
  next s t =>
    refine (Walk.Decides.expect _ path _).congr ?_ (iff_false_intro nofun)
    rw [decide_eq_true_iff, matches_string_iff]
  next n k =>
    refine (Walk.Decides.expect _ path _).congr ?_ (iff_false_intro nofun)
    rw [decide_eq_true_iff, matches_int_iff]
  next x n =>
    obtain ⟨yes, undecided⟩ := closeTo?_spec (v := .int n) rfl x
    exact (Walk.Decides.verdict path _ _).congr yes.symm
      (overflows_constant_iff.trans undecided.symm)
  next x y =>
    obtain ⟨yes, undecided⟩ := closeTo?_spec (v := .real y) rfl x
    exact (Walk.Decides.verdict path _ _).congr yes.symm
      (overflows_constant_iff.trans undecided.symm)
  next texts ints realInts reals =>
    refine .reject (fun h => ?_) fun h => ?_
    · cases h with
      | int n => exact ints n n rfl rfl
      | text s => exact texts s _ rfl rfl
      | real => exact reals _ _ rfl rfl
      | realOfInt => exact realInts _ _ rfl rfl
    · cases h with
      | constant h =>
        obtain ⟨n, rfl, -⟩ := h
        exact realInts _ _ rfl rfl

theorem conforms_choice_iff {v : Json} {label : Label} {options : Options} :
    Conforms v (.choice label options) ↔ ∃ value ∈ options.scalars, Matches v value := by
  constructor
  · intro h
    cases h with
    | choice hm h => exact ⟨_, hm, h⟩
  · rintro ⟨value, hm, h⟩
    exact .choice hm h

theorem overflows_choice_iff {v : Json} {label : Label} {xs : List Finite64} :
    Overflows v (.choice label (.reals xs)) ↔ TooLarge v ∧ xs ≠ [] := by
  constructor
  · intro h
    cases h with
    | choice h hx => exact ⟨h, hx⟩
  · rintro ⟨h, hx⟩
    exact .choice h hx

theorem decides_choice (path : Path) (v : Json) (label : Label) (options : Options) :
    (checkChoice path v options).Decides (Conforms v (.choice label options))
      (Overflows v (.choice label options)) := by
  rw [conforms_choice_iff]
  cases options with
  | texts values =>
    have none : ¬ Overflows v (.choice label (.texts values)) := nofun
    simp only [Options.scalars, List.mem_map, exists_exists_and_eq_and]
    cases v with
    | string t =>
      refine (Walk.Decides.expect _ path _).congr ?_ (iff_false_intro none)
      rw [List.any_eq_true]
      refine exists_congr fun s => and_congr_right fun _ => ?_
      rw [decide_eq_true_iff, matches_string_iff]
    | _ =>
      refine .reject ?_ none
      intro ⟨s, _, h⟩
      cases h
  | ints values =>
    have none : ¬ Overflows v (.choice label (.ints values)) := nofun
    simp only [Options.scalars, List.mem_map, exists_exists_and_eq_and]
    cases v with
    | int n =>
      refine (Walk.Decides.expect _ path _).congr ?_ (iff_false_intro none)
      simp only [List.contains_iff_mem, matches_int_iff, exists_eq_right']
    | _ =>
      refine .reject ?_ none
      intro ⟨k, _, h⟩
      cases h
  | reals values =>
    simp only [Options.scalars, List.mem_map, exists_exists_and_eq_and,
      overflows_choice_iff]
    cases v with
    | int n =>
      obtain ⟨yes, undecided⟩ := closeToAny?_spec (v := .int n) rfl values
      exact (Walk.Decides.verdict path _ _).congr yes.symm undecided.symm
    | real y =>
      obtain ⟨yes, undecided⟩ := closeToAny?_spec (v := .real y) rfl values
      exact (Walk.Decides.verdict path _ _).congr yes.symm undecided.symm
    | _ =>
      refine .reject ?_ ?_
      · intro ⟨x, _, h⟩
        cases h
      · intro ⟨⟨n, h, _⟩, _⟩
        exact absurd h nofun

end Scalars

end FieldSchema.Validation
