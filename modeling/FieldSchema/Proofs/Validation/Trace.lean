import FieldSchema.Proofs.Validation.Report

/-! The visits of a walk. The walk of a value along a field is made once more, with a note of each
value that is checked and of the field it is checked against; without its notes it is the walk that
checks the value. -/
namespace FieldSchema.Validation

/-- A value that is checked against a field, the number of the field among those of the tree, and
the path that the walk has for the value. -/
structure Visit where
  number : Nat
  path : Path
  value : Json
  field : Field

/-- A walk with its visits. -/
structure Trace where
  walk : Walk
  visits : List Visit

namespace Trace

/-- What is checked without a visit. -/
def silent (w : Walk) : Trace := ⟨w, []⟩

def append (a b : Trace) : Trace :=
  ⟨a.walk ++ b.walk, if a.walk.overflowed then a.visits else a.visits ++ b.visits⟩

instance : Append Trace := ⟨append⟩

def concat (traces : List Trace) : Trace := traces.foldr (· ++ ·) (silent .clear)

/-- The visits to a part of the tree that has this many fields before it. -/
def after (count : Nat) (t : Trace) : Trace :=
  { t with visits := t.visits.map fun x => { x with number := count + x.number } }

def visit (path : Path) (v : Json) (f : Field) (t : Trace) : Trace :=
  { t with visits := ⟨0, path, v, f⟩ :: (t.after 1).visits }

end Trace

mutual

/-- The walk of a value along a field, with what it visits. -/
def trace (path : Path) (v : Json) : Field → Trace
  | .object label fields =>
    .visit path v (.object label fields) <|
      match v with
      | .object members =>
        traceMembers path members fields ++ .silent (checkUnexpected path members fields)
      | _ => .silent (found path (.typeName "object" v.typeName))
  | .variant label alternatives =>
    .visit path v (.variant label alternatives) <|
      match v with
      | .object _ => traceAlternatives path v (alternatives.map Field.name) alternatives
      | _ => .silent (found path (.variantType v.typeName))
  | .array label element lengths =>
    .visit path v (.array label element lengths) <|
      match v with
      | .array items =>
        .silent (expect (lengths.admits items.length) path (.arrayLength items.length lengths)) ++
          .concat (items.zipIdx.map fun (item, index) => trace (path.item index) item element)
      | _ => .silent (found path (.typeName "array" v.typeName))
  | .optional label inner =>
    .visit path v (.optional label inner) <|
      match v with
      | .null => .silent .clear
      | _ => trace path v inner
  | f => .visit path v f (.silent (check path v f))

def traceMembers (path : Path) (members : List (Text × Json)) : List Field → Trace
  | [] => .silent .clear
  | .optional label inner :: rest =>
    (match members.lookup (Text.ofString label.name) with
      | some v => .after 1 (trace (path.member label.name) v inner)
      | none => .silent .clear) ++
      .after (Field.optional label inner).preorder.length (traceMembers path members rest)
  | f :: rest =>
    (match members.lookup (Text.ofString f.name) with
      | some v => trace (path.member f.name) v f
      | none => .silent (found (path.member f.name) .missing)) ++
      .after f.preorder.length (traceMembers path members rest)

def traceAlternatives (path : Path) (v : Json) (names : List String) : List Field → Trace
  | [] => .silent (found path (.noAlternative names))
  | f :: rest =>
    let ⟨walk, visits⟩ := trace path v f
    if walk.overflowed || walk.violations.isEmpty then ⟨walk, visits⟩
    else
      ⟨⟨[], walk.rejections ++ [⟨path, f.name, walk.violations.length⟩], false⟩, visits⟩ ++
        .after f.preorder.length (traceAlternatives path v names rest)

end

/-- What the walk along the member of a field visits. That of an optional field is visited as the
one inside, which comes right after it. -/
def memberTrace (path : Path) (members : List (Text × Json)) (f : Field) : Trace :=
  match members.lookup (Text.ofString f.name) with
  | some v =>
    let inner := trace (path.member f.name) v f.memberField
    if f.isOptional then inner.after 1 else inner
  | none => .silent (if f.isOptional then .clear else found (path.member f.name) .missing)

theorem traceMembers_cons (path : Path) (members : List (Text × Json)) (f : Field)
    (rest : List Field) : traceMembers path members (f :: rest) =
      memberTrace path members f ++
        .after f.preorder.length (traceMembers path members rest) := by
  cases f <;> rfl

theorem trace_optional {path : Path} {v : Json} {label : Label} {inner : Field} (h : v ≠ .null) :
    trace path v (.optional label inner) =
      .visit path v (.optional label inner) (trace path v inner) := by
  cases v with
  | null => exact absurd rfl h
  | _ => rfl

namespace Trace

variable {a b : Trace} {count : Nat} {path : Path} {v : Json} {f : Field}

@[simp] theorem walk_silent (w : Walk) : (silent w).walk = w := rfl
@[simp] theorem walk_append : (a ++ b).walk = a.walk ++ b.walk := rfl
@[simp] theorem walk_after : (a.after count).walk = a.walk := rfl
@[simp] theorem walk_visit : (a.visit path v f).walk = a.walk := rfl

@[simp] theorem walk_concat (traces : List Trace) :
    (concat traces).walk = Walk.concat (traces.map walk) := by
  induction traces with
  | nil => rfl
  | cons t traces ih =>
    rw [List.map_cons]
    exact congrArg (t.walk ++ ·) ih

end Trace

section Walks

mutual

/-- With its visits left out, the walk is the one that checks the value. -/
theorem walk_trace (f : Field) (path : Path) (v : Json) :
    (trace path v f).walk = check path v f := by
  cases f with
  | object label fields =>
    cases v with
    | object members =>
      exact congrArg (· ++ checkUnexpected path members fields)
        (walk_traceMembers fields path members)
    | _ => rfl
  | variant label alternatives =>
    cases v with
    | object members => exact walk_traceAlternatives alternatives path _ _
    | _ => rfl
  | array label element lengths =>
    cases v with
    | array items =>
      have each : ∀ item : Json × Nat, (trace (path.item item.2) item.1 element).walk =
          check (path.item item.2) item.1 element := fun item => walk_trace element _ _
      rw [trace, check]
      simp [each, Function.comp_def]
    | _ => rfl
  | optional label inner =>
    cases v with
    | null => rfl
    | _ => exact walk_trace inner path _
  | _ => rfl

theorem walk_traceMembers (fields : List Field) (path : Path) (members : List (Text × Json)) :
    (traceMembers path members fields).walk = checkMembers path members fields := by
  cases fields with
  | nil => rfl
  | cons f rest =>
    rw [traceMembers_cons, checkMembers_cons, Trace.walk_append, Trace.walk_after,
      walk_traceMembers rest]
    refine congrArg (· ++ checkMembers path members rest) ?_
    rw [memberTrace]
    cases members.lookup (Text.ofString f.name) with
    | none => rfl
    | some v =>
      cases f with
      | optional label inner => exact walk_trace inner _ v
      | _ => exact walk_trace _ _ v

theorem walk_traceAlternatives (fields : List Field) (path : Path) (v : Json)
    (names : List String) : (traceAlternatives path v names fields).walk =
      checkAlternatives path v names fields := by
  cases fields with
  | nil => rfl
  | cons f rest =>
    rw [traceAlternatives, checkAlternatives, ← walk_trace f]
    dsimp only
    split
    next => rfl
    next =>
      rw [Trace.walk_append, Trace.walk_after, walk_traceAlternatives rest]

end

end Walks

section Visits

namespace Trace

variable {a b : Trace} {path : Path} {v w : Json} {f g : Field}

/-- This value is checked against this field. -/
def Visits (t : Trace) (v : Json) (f : Field) : Prop := ∃ x ∈ t.visits, x.value = v ∧ x.field = f

@[simp] theorem visits_silent (walk : Walk) : ¬ (silent walk).Visits w g :=
  fun ⟨_, hx, _⟩ => absurd hx List.not_mem_nil

@[simp] theorem visits_after (count : Nat) : (a.after count).Visits w g ↔ a.Visits w g := by
  simp [Visits, after]

@[simp] theorem visits_visit :
    (a.visit path v f).Visits w g ↔ (v = w ∧ f = g) ∨ a.Visits w g := by
  rw [← visits_after (a := a) 1]
  simp [Visits, visit]

theorem visits_append (h : a.walk.overflowed = false) :
    (a ++ b).Visits w g ↔ a.Visits w g ∨ b.Visits w g := by
  have all : (a ++ b).visits = a.visits ++ b.visits := by
    change (if a.walk.overflowed then a.visits else a.visits ++ b.visits) = _
    rw [h, if_neg Bool.false_ne_true]
  rw [Visits, all]
  simp only [List.mem_append, or_and_right, exists_or]
  rfl

theorem visits_concat {α : Type} {t : α → Trace} {items : List α}
    (h : (concat (items.map t)).walk.overflowed = false) :
    (concat (items.map t)).Visits w g ↔ ∃ x ∈ items, (t x).Visits w g := by
  induction items with
  | nil => simp [concat]
  | cons x items ih =>
    have split : concat ((x :: items).map t) = t x ++ concat (items.map t) := rfl
    obtain ⟨first, rest⟩ := Walk.fits_append.1 h
    rw [split, visits_append first, ih rest]
    simp

end Trace

variable {path : Path} {v w : Json} {f g : Field} {members : List (Text × Json)}

theorem visits_traceMembers {fields : List Field}
    (h : (traceMembers path members fields).walk.overflowed = false) :
    (traceMembers path members fields).Visits w g ↔
      ∃ f ∈ fields, (memberTrace path members f).Visits w g := by
  induction fields with
  | nil => simp [traceMembers]
  | cons f rest ih =>
    rw [traceMembers_cons] at h
    obtain ⟨first, later⟩ := Walk.fits_append.1 h
    rw [traceMembers_cons, Trace.visits_append first, Trace.visits_after, ih later]
    simp

/-- A value conforms if a walk that comes to its end finds nothing. -/
theorem conforms_iff_violations (h : (check path v f).overflowed = false) :
    Conforms v f ↔ (check path v f).violations = [] := by
  obtain ⟨overflows, passes⟩ := check_decides f path v
  have small : ¬ Overflows v f := fun large => by simp [overflows.2 large] at h
  rw [Walk.Passes] at passes
  tauto

theorem visits_traceAlternatives {names : List String} {fields : List Field}
    (h : (traceAlternatives path v names fields).walk.overflowed = false) :
    (traceAlternatives path v names fields).Visits w g ↔ ∃ before f after,
      fields = before ++ f :: after ∧ (∀ h ∈ before, ¬ Conforms v h) ∧
        (check path v f).overflowed = false ∧ (trace path v f).Visits w g := by
  induction fields with
  | nil => simp [traceAlternatives]
  | cons f rest ih =>
    have walk := walk_trace f path v
    rw [exists_split_cons]
    rw [traceAlternatives] at h ⊢
    dsimp only at h ⊢
    rw [walk] at h ⊢
    split at h
    next accepted =>
      have fits : (check path v f).overflowed = false := by simpa using h
      have none : (check path v f).violations = [] := by simpa [fits] using accepted
      have conforms := (conforms_iff_violations fits).2 none
      rw [if_pos accepted]
      simp [fits, conforms, Trace.Visits]
    next rejected =>
      rw [if_neg rejected, Trace.visits_append rfl, Trace.visits_after]
      rw [Bool.or_eq_true, not_or, Bool.not_eq_true] at rejected
      have other : ¬ Conforms v f := fun conforms =>
        rejected.2 (List.isEmpty_iff.2 ((conforms_iff_violations rejected.1).1 conforms))
      rw [ih (by simpa using h)]
      simp [rejected.1, other, Trace.Visits]

theorem visits_memberTrace : (memberTrace path members f).Visits w g ↔
    ∃ v, members.lookup (Text.ofString f.name) = some v ∧
      (trace (path.member f.name) v f.memberField).Visits w g := by
  rw [memberTrace]
  cases members.lookup (Text.ofString f.name) with
  | none => simp
  | some v =>
    dsimp only
    split <;> simp

theorem Reaches.fits (h : Reaches v f w g) (fits : (check path v f).overflowed = false)
    (path' : Path) : (check path' w g).overflowed = false := by
  rw [← Bool.not_eq_true] at fits ⊢
  exact fun large => fits ((check_decides f path v).overflows.2
    (h.overflows ((check_decides g path' w).overflows.1 large)))

section Below

variable {label : Label} {fields : List Field} {element inner : Field} {items : List Json}
  {lengths : Bounds Nat}

theorem reaches_object : Reaches (.object members) (.object label fields) w g ↔
    (.object members = w ∧ .object label fields = g) ∨ ∃ f ∈ fields, ∃ v,
      members.lookup (Text.ofString f.name) = some v ∧ Reaches v f.memberField w g := by
  constructor
  · intro h
    cases h with
    | here => exact .inl ⟨rfl, rfl⟩
    | member hf hl h => exact .inr ⟨_, hf, _, hl, h⟩
  · rintro (⟨rfl, rfl⟩ | ⟨f, hf, v, hl, h⟩)
    · exact .here _ _
    · exact .member hf hl h

theorem reaches_variant : Reaches (.object members) (.variant label fields) w g ↔
    (.object members = w ∧ .variant label fields = g) ∨ ∃ before f after,
      fields = before ++ f :: after ∧ (∀ h ∈ before, ¬ Conforms (.object members) h) ∧
        Reaches (.object members) f w g := by
  constructor
  · intro h
    cases h with
    | here => exact .inl ⟨rfl, rfl⟩
    | alternative others h => exact .inr ⟨_, _, _, rfl, others, h⟩
  · rintro (⟨rfl, rfl⟩ | ⟨before, f, after, rfl, others, h⟩)
    · exact .here _ _
    · exact .alternative others h

theorem reaches_array : Reaches (.array items) (.array label element lengths) w g ↔
    (.array items = w ∧ .array label element lengths = g) ∨
      ∃ v ∈ items, Reaches v element w g := by
  constructor
  · intro h
    cases h with
    | here => exact .inl ⟨rfl, rfl⟩
    | item hv h => exact .inr ⟨_, hv, h⟩
  · rintro (⟨rfl, rfl⟩ | ⟨v, hv, h⟩)
    · exact .here _ _
    · exact .item hv h

theorem reaches_optional : Reaches v (.optional label inner) w g ↔
    (v = w ∧ .optional label inner = g) ∨ v ≠ .null ∧ Reaches v inner w g := by
  constructor
  · intro h
    cases h with
    | here => exact .inl ⟨rfl, rfl⟩
    | inner filled h => exact .inr ⟨filled, h⟩
  · rintro (⟨rfl, rfl⟩ | ⟨filled, h⟩)
    · exact .here _ _
    · exact .inner filled h

end Below

/-- A walk that comes to its end visits the values and fields that meet. -/
theorem visits_iff_reaches (h : (check path v f).overflowed = false) :
    (trace path v f).Visits w g ↔ Reaches v f w g := by
  induction f using Field.induct_members generalizing path v with
  | step f ih =>
    have fits : ∀ {w g}, Reaches v f w g → ∀ path, (check path w g).overflowed = false :=
      fun reach => reach.fits h
    -- Where nothing below the field is checked, it is visited alone.
    have alone : ∀ found : Walk, trace path v f = .visit path v f (.silent found) →
        (Reaches v f w g → v = w ∧ f = g) →
        ((trace path v f).Visits w g ↔ Reaches v f w g) := by
      intro found whole only
      rw [whole, Trace.visits_visit, or_iff_left (Trace.visits_silent found)]
      refine ⟨?_, only⟩
      rintro ⟨rfl, rfl⟩
      exact .here v f
    rw [← walk_trace] at h
    cases f with
    | object label fields =>
      cases v with
      | object members =>
        rw [trace] at h
        obtain ⟨known, -⟩ := Walk.fits_append.1 h
        rw [trace, Trace.visits_visit, Trace.visits_append known,
          or_iff_left (Trace.visits_silent _), visits_traceMembers known, reaches_object]
        refine or_congr_right (exists_congr fun f => and_congr_right fun hf => ?_)
        rw [visits_memberTrace]
        refine exists_congr fun v => and_congr_right fun hl => (ih f hf).2 ?_
        exact fits (.member hf hl (.here v _)) _
      | _ => exact alone _ rfl fun reach => by cases reach; exact ⟨rfl, rfl⟩
    | variant label alternatives =>
      cases v with
      | object members =>
        rw [trace, Trace.walk_visit] at h
        rw [trace, Trace.visits_visit, visits_traceAlternatives h, reaches_variant]
        refine or_congr_right (exists_congr fun before => exists_congr fun f =>
          exists_congr fun after => and_congr_right ?_)
        rintro rfl
        refine and_congr_right fun others => ?_
        have here := fits (.alternative others (.here _ f)) path
        rw [and_iff_right here]
        exact (ih f (by simp [Field.children])).1 here
      | _ => exact alone _ rfl fun reach => by cases reach; exact ⟨rfl, rfl⟩
    | array label element lengths =>
      cases v with
      | array items =>
        rw [trace] at h
        obtain ⟨length, each⟩ := Walk.fits_append.1 h
        rw [trace, Trace.visits_visit, Trace.visits_append length,
          or_iff_right (Trace.visits_silent _), Trace.visits_concat each, reaches_array,
          ← exists_mem_zipIdx items (Reaches · element w g)]
        refine or_congr_right (exists_congr fun item => and_congr_right fun hm => ?_)
        refine (ih element (by simp [Field.children])).1 (fits (.item ?_ (.here _ _)) _)
        exact List.fst_mem_of_mem_zipIdx hm
      | _ => exact alone _ rfl fun reach => by cases reach; exact ⟨rfl, rfl⟩
    | optional label inner =>
      by_cases hv : v = .null
      · subst hv
        refine alone _ rfl fun reach => ?_
        exact (reaches_optional.1 reach).resolve_right fun ⟨filled, _⟩ => filled rfl
      · rw [trace_optional hv, Trace.visits_visit, reaches_optional, and_iff_right hv]
        have below := fits (.inner hv (.here v inner)) path
        exact or_congr_right ((ih inner (by simp [Field.children])).1 below)
    | _ => exact alone _ rfl fun reach => by cases reach; exact ⟨rfl, rfl⟩

end Visits

end FieldSchema.Validation
