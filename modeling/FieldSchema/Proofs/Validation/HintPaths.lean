import FieldSchema.Proofs.Template.Places
import FieldSchema.Proofs.Validation.Locality
import FieldSchema.Proofs.Validation.Trace

/-! Hints and messages name fields alike. A walk comes to a field by the path that its place has,
apart from the indices of items; so what it finds is told of a place, or of a key below one. -/
namespace FieldSchema.Validation

namespace Path

/-- The path with every index left out. -/
def pattern (p : Path) : Text := p.root ++ p.steps.flatMap fun
  | .member key => stepText (.member key)
  | .item _ => "[]"

variable {p : Path} {here : String}

@[simp] theorem pattern_root (root : String) : (mk root []).pattern = root := by
  simp [pattern]

@[simp] theorem pattern_member (p : Path) (key : Text) :
    (p.member key).pattern = p.pattern ++ ("." ++ key : Text) := by
  simp [pattern, member, stepText]

theorem pattern_member_name (h : p.pattern = Text.ofString here) (name : String) :
    (p.member name).pattern = Text.ofString (here ++ "." ++ name) := by
  rw [pattern_member, h, Text.ofString_append, Text.ofString_append, List.append_assoc]

theorem pattern_item (h : p.pattern = Text.ofString here) (index : Nat) :
    (p.item index).pattern = Text.ofString (here ++ "[]") := by
  rw [Text.ofString_append, ← h]
  simp [pattern, item]

end Path

section Visits

variable {places others : List Place} {x : Visit} {a b t : Trace}

/-- The visit is to the field of this number, on the path of its place. -/
def Visit.IsTo (places : List Place) (x : Visit) : Prop :=
  ∃ p, places[x.number]? = some p ∧ x.field = p.field ∧ x.path.pattern = Text.ofString p.path

def Trace.Follows (places : List Place) (t : Trace) : Prop := ∀ x ∈ t.visits, x.IsTo places

namespace Trace.Follows

theorem silent (walk : Walk) : (silent walk).Follows places := List.forall_mem_nil _

theorem append (ha : a.Follows places) (hb : b.Follows places) : (a ++ b).Follows places := by
  change ∀ x ∈ (if a.walk.overflowed then a.visits else a.visits ++ b.visits), _
  split
  next => exact ha
  next => exact List.forall_mem_append.2 ⟨ha, hb⟩

theorem concat {α : Type} {t : α → Trace} {items : List α}
    (h : ∀ x ∈ items, (t x).Follows places) :
    (Trace.concat (items.map t)).Follows places := by
  induction items with
  | nil => exact .silent _
  | cons x items ih =>
    obtain ⟨first, rest⟩ := List.forall_mem_cons.1 h
    exact first.append (ih rest)

theorem left (h : t.Follows places) : t.Follows (places ++ others) := by
  intro x hx
  obtain ⟨p, hp, visited⟩ := h x hx
  refine ⟨p, ?_, visited⟩
  rw [List.getElem?_append_left (List.getElem?_eq_some_iff.1 hp).1, hp]

theorem after (h : t.Follows places) (others : List Place) :
    (t.after others.length).Follows (others ++ places) := by
  intro x hx
  obtain ⟨y, hy, rfl⟩ := List.mem_map.1 hx
  obtain ⟨p, hp, visited⟩ := h y hy
  refine ⟨p, ?_, visited⟩
  rw [List.getElem?_append_right (Nat.le_add_right _ _), Nat.add_sub_cancel_left, hp]

theorem visit {path : Path} {v : Json} {f : Field} {here : String}
    (same : path.pattern = Text.ofString here) (h : t.Follows places) :
    (t.visit path v f).Follows (⟨here, f⟩ :: places) :=
  List.forall_mem_cons.2 ⟨⟨_, rfl, rfl, same⟩, h.after [⟨here, f⟩]⟩

end Trace.Follows

variable {path : Path} {v : Json} {f : Field} {fields : List Field} {here : String}
  {members : List (Text × Json)}

theorem follows_memberTrace (h : ∀ v,
    (trace (path.member f.name) v f.memberField).Follows (f.memberField.placesFrom here)) :
    (memberTrace path members f).Follows (f.placesFrom here) := by
  rw [memberTrace]
  cases members.lookup (Text.ofString f.name) with
  | none => exact .silent _
  | some v =>
    cases f with
    | optional label inner => exact (h v).after [⟨here, .optional label inner⟩]
    | _ => exact h v

theorem follows_traceMembers {childPath : Field → String}
    (h : ∀ f ∈ fields, (memberTrace path members f).Follows (f.placesFrom (childPath f))) :
    (traceMembers path members fields).Follows (Field.placesFrom.below childPath fields) := by
  induction fields with
  | nil => exact .silent _
  | cons f rest ih =>
    obtain ⟨first, later⟩ := List.forall_mem_cons.1 h
    rw [traceMembers_cons, ← Field.length_placesFrom (childPath f) f]
    exact first.left.append ((ih later).after _)

theorem follows_traceAlternatives {names : List String}
    (h : ∀ f ∈ fields, (trace path v f).Follows (f.placesFrom here)) :
    (traceAlternatives path v names fields).Follows
      (Field.placesFrom.below (fun _ => here) fields) := by
  induction fields with
  | nil => exact .silent _
  | cons f rest ih =>
    obtain ⟨first, later⟩ := List.forall_mem_cons.1 h
    rw [traceAlternatives, ← Field.length_placesFrom here f]
    dsimp only
    split
    next => exact first.left
    next =>
      exact Trace.Follows.append (a := ⟨_, (trace path v f).visits⟩) first.left
        ((ih later).after _)

/-- A walk whose path is that of a place visits the places of the tree there. -/
theorem follows_trace (same : path.pattern = Text.ofString here) :
    (trace path v f).Follows (f.placesFrom here) := by
  induction f using Field.induct_members generalizing path v here with
  | step f ih =>
    cases f with
    | object label fields =>
      have below : ∀ members, (traceMembers path members fields).Follows
          (Field.placesFrom.below (Field.childPath here (.object label fields)) fields) := by
        refine fun members => follows_traceMembers fun f hf => follows_memberTrace fun v => ?_
        exact (ih f hf).2 (Path.pattern_member_name same f.name)
      cases v with
      | object members => exact .visit same ((below members).append (.silent _))
      | _ => exact .visit same (.silent _)
    | variant label alternatives =>
      cases v with
      | object members =>
        exact .visit same (follows_traceAlternatives fun f hf => (ih f hf).1 same)
      | _ => exact .visit same (.silent _)
    | array label element lengths =>
      have below : ∀ item : Json × Nat, (trace (path.item item.2) item.1 element).Follows
          (element.placesFrom (here ++ "[]")) := fun item =>
        (ih element (by simp [Field.children])).1 (Path.pattern_item same item.2)
      cases v with
      | array items =>
        exact .visit same ((Trace.Follows.silent _).append (.concat fun x _ => below x))
      | _ => exact .visit same (.silent _)
    | optional label inner =>
      cases v with
      | null => exact .visit same (.silent _)
      | _ => exact .visit same ((ih inner (by simp [Field.children])).1 same)
    | _ => exact .visit same (.silent _)

end Visits

section Findings

/-- A path is that of a place or, where something unexpected is told, that of an object with a key
that none of its members has. -/
inductive Located (places : List Place) (unexpected : Prop) (path : Path) : Prop where
  | place {p : Place} : p ∈ places → path.pattern = Text.ofString p.path →
    Located places unexpected path
  | key {p : Place} {key : Text} : unexpected → p ∈ places → p.field.kind = .object →
    (∀ g ∈ p.field.children, Text.ofString g.name ≠ key) →
    path.pattern = Text.ofString p.path ++ ("." ++ key : Text) → Located places unexpected path

theorem Located.mono {places others : List Place} {unexpected unexpected' : Prop} {path : Path}
    (h : Located places unexpected path) (more : places ⊆ others)
    (told : unexpected → unexpected') : Located others unexpected' path := by
  cases h with
  | place hp same => exact .place (more hp) same
  | key unexpected hp object new same => exact .key (told unexpected) (more hp) object new same

variable {f : Field}

theorem located_member {path : Path} {members : List (Text × Json)} {here : String}
    (same : path.pattern = Text.ofString here)
    (value : ∀ v, members.lookup (Text.ofString f.name) = some v →
      ∀ x ∈ (check (path.member f.name) v f.memberField).violations,
        Located (f.memberField.placesFrom (here ++ "." ++ f.name)) (x.mismatch = .unexpected)
          x.path) :
    ∀ x ∈ (memberWalk path members f).violations,
      Located (f.placesFrom (here ++ "." ++ f.name)) (x.mismatch = .unexpected) x.path := by
  intro x hx
  rw [violations_memberWalk] at hx
  cases hl : members.lookup (Text.ofString f.name) with
  | some v =>
    rw [hl] at hx
    exact (value v hl x hx).mono Field.memberField_placesFrom_subset id
  | none =>
    rw [hl] at hx
    dsimp only at hx
    split at hx
    next => exact absurd hx List.not_mem_nil
    next =>
      rw [List.mem_singleton.1 hx]
      exact .place (Field.mem_placesFrom_self _ f) (Path.pattern_member_name same f.name)

/-- Whatever a walk finds is told of a place. -/
theorem located_check {path : Path} {v : Json} {here : String}
    (fits : (check path v f).overflowed = false) (same : path.pattern = Text.ofString here) :
    ∀ x ∈ (check path v f).violations,
      Located (f.placesFrom here) (x.mismatch = .unexpected) x.path := by
  induction f using Field.induct_members generalizing path v here with
  | step f ih =>
    have reached : ∀ {w g}, Reaches v f w g → ∀ path, (check path w g).overflowed = false :=
      fun reach => reach.fits fits
    have parts := itemised_check fits
    have top := Field.mem_placesFrom_self here f
    -- All but objects, arrays and optional fields tell nothing except of themselves; what the
    -- alternatives of a variant find is dropped.
    have alone : ∀ {found}, AtMostOne path found → ∀ x ∈ found,
        Located (f.placesFrom here) (x.mismatch = .unexpected) x.path := by
      intro found one x hx
      exact .place top (by rw [one.2 x hx, same])
    intro x hx
    cases f with
    | object label fields =>
      cases v with
      | object members =>
        rw [Itemised] at parts
        rw [parts] at hx
        rcases List.mem_append.1 hx with hx | hx
        · obtain ⟨f, hf, hx⟩ := List.mem_flatMap.1 hx
          have child := Path.pattern_member_name same f.name
          rw [← violations_memberWalk] at hx
          have told := located_member same (fun v hl x hx =>
            (ih f hf).2 (reached (.member hf hl (.here v _)) _) child x hx) x hx
          exact told.mono (Field.placesFrom_subset here (f := .object label fields) hf) id
        · obtain ⟨key, hk, rfl⟩ := List.mem_map.1 hx
          have new : ∀ f ∈ fields, Text.ofString f.name ≠ key := by
            simpa using (List.mem_filter.1 hk).2
          exact .key rfl top rfl new (by rw [Path.pattern_member, same])
      | _ => exact alone parts x hx
    | array label element lengths =>
      cases v with
      | array items =>
        rw [Itemised] at parts
        rw [parts] at hx
        rcases List.mem_append.1 hx with hx | hx
        · split at hx
          next => exact absurd hx List.not_mem_nil
          next =>
            rw [List.mem_singleton.1 hx]
            exact .place top same
        · obtain ⟨⟨item, index⟩, hm, hx⟩ := List.mem_flatMap.1 hx
          have known : Reaches (.array items) (.array label element lengths) item element :=
            .item (List.fst_mem_of_mem_zipIdx hm) (.here _ _)
          have inner := (ih element (by simp [Field.children])).1 (reached known _)
            (Path.pattern_item same index) x hx
          exact inner.mono (Field.placesFrom_subset here (f := .array label element lengths)
            (by simp [Field.children])) id
      | _ => exact alone parts x hx
    | optional label inner =>
      by_cases hv : v = .null
      · subst hv
        rw [Itemised] at parts
        rw [parts] at hx
        exact absurd hx List.not_mem_nil
      · rw [check_optional path label hv] at hx
        have below := (ih inner (by simp [Field.children])).1 (reached (.inner hv (.here _ _)) _)
          same x hx
        exact below.mono (List.subset_cons_self _ _) id
    | _ => exact alone parts x hx

def Finding.path (root : String) : Finding → Path
  | mismatch v => v.path
  | blank | unreadable _ _ => ⟨root, []⟩

theorem Finding.message_eq (root : String) (x : Finding) : ∃ fault : Text,
    x.message root = (x.path root).text ++ Text.ofString ": " ++ fault := by
  have atRoot : ∀ fault : String, Text.ofString (root ++ ": " ++ fault) =
      (Path.mk root []).text ++ Text.ofString ": " ++ Text.ofString fault := by
    intro fault
    rw [Text.ofString_append, Text.ofString_append, Path.text]
    simp
  cases x with
  | mismatch v => exact ⟨v.mismatch.text, rfl⟩
  | blank =>
    have split : root ++ ": " ++ "JSON text is empty" = root ++ ": JSON text is empty" :=
      String.append_assoc
    exact ⟨_, (congrArg Text.ofString split.symm).trans (atRoot _)⟩
  | unreadable text e => exact ⟨_, atRoot _⟩

/-- All that is wrong with a text is told of its top, or found by a walk. -/
theorem findings_validate {text : Option (List Char)} {found : List Finding}
    (h : (validate (.field f) text).findings = .ok found) :
    (∀ x ∈ found, x.path f.name = ⟨f.name, []⟩) ∨
      ∃ v, (check ⟨f.name, []⟩ v f).overflowed = false ∧
        found = (check ⟨f.name, []⟩ v f).violations.map .mismatch := by
  unfold validate at h
  dsimp only at h
  split at h
  next =>
    obtain rfl := Except.ok.inj h
    exact .inl (by simp [Finding.path])
  next =>
    split at h
    next v hv => exact .inr ⟨v, findings_eq_ok h⟩
    next e he =>
      obtain rfl := Except.ok.inj h
      exact .inl (by simp [Finding.path])

/-- Hints name fields as messages do. There is a line for each hint that is not empty, in the order
of the fields. Whenever a walk checks a value against a field its path differs from that of the line
by the indices of items only; an optional field has the path of the one inside. And what is found
for any text is told of such a path, or of an object's with a key that none of its members has. -/
theorem hints_locate (f : Field) :
    f.places.map Place.field = f.preorder ∧
    f.hints = "\n".intercalate ((f.places.filter (·.hint ≠ "")).map Place.line) ∧
    (∀ v, let run := trace ⟨f.name, []⟩ v f
      run.walk = check ⟨f.name, []⟩ v f ∧
      (run.walk.overflowed = false → ∀ w g, run.Visits w g ↔ Reaches v f w g) ∧
      ∀ x ∈ run.visits, ∃ p, f.places[x.number]? = some p ∧ x.field = p.field ∧
        x.path.pattern = Text.ofString p.path) ∧
    (∀ n path label inner, f.places[n]? = some ⟨path, .optional label inner⟩ →
      f.places[n + 1]? = some ⟨path, inner⟩) ∧
    ∀ text found, (validate (.field f) text).findings = .ok found → ∀ x ∈ found,
      (∃ fault, x.message f.name = (x.path f.name).text ++ Text.ofString ": " ++ fault) ∧
      Located f.places (∃ path, x = .mismatch ⟨path, .unexpected⟩) (x.path f.name) := by
  have top : (Path.mk f.name []).pattern = Text.ofString f.name := Path.pattern_root f.name
  refine ⟨Field.map_field_placesFrom f.name f, f.hints_eq, fun v => ⟨walk_trace f _ v, ?_, ?_⟩, ?_,
    fun text found h x hx => ⟨x.message_eq f.name, ?_⟩⟩
  · intro fits w g
    exact visits_iff_reaches (walk_trace f _ v ▸ fits)
  · exact follows_trace top
  · exact fun n path label inner => Field.placesFrom_optional
  · rcases findings_validate h with root | ⟨v, fits, rfl⟩
    · rw [root x hx]
      exact .place (Field.mem_placesFrom_self f.name f) top
    · obtain ⟨y, hy, rfl⟩ := List.mem_map.1 hx
      refine (located_check fits top y hy).mono (List.Subset.refl _) fun unexpected => ⟨y.path, ?_⟩
      rw [← unexpected]

end Findings

end FieldSchema.Validation
