import FieldSchema.Proofs.Schema.Buildable
import FieldSchema.Proofs.Validation.Decision

/-! Where a mismatch comes from. The walk along an object or an array is the walks along its members
or items one after the other, so a change at one place of a document changes only what is reported
for that place. -/
namespace FieldSchema.Validation

namespace Walk

variable {a b : Walk}

theorem concat_cons (w : Walk) (walks : List Walk) : concat (w :: walks) = w ++ concat walks := rfl

theorem concat_append (front back : List Walk) :
    concat (front ++ back) = concat front ++ concat back := by
  induction front with
  | nil => rfl
  | cons w front ih =>
    rw [List.cons_append, concat_cons, concat_cons, ih, append_assoc]

theorem violations_append (h : (a ++ b).overflowed = false) :
    (a ++ b).violations = a.violations ++ b.violations := by
  rw [append_def, (fits_append.1 h).1, if_neg Bool.false_ne_true]

theorem violations_concat {walks : List Walk} (h : (concat walks).overflowed = false) :
    (concat walks).violations = walks.flatMap Walk.violations := by
  induction walks with
  | nil => rfl
  | cons w walks ih =>
    rw [concat_cons] at h ⊢
    rw [violations_append h, ih (fits_append.1 h).2, List.flatMap_cons]

end Walk

section Objects

variable {path : Path} {members : List (Text × Json)}

/-- The walk along the member of a field. -/
def memberWalk (path : Path) (members : List (Text × Json)) (f : Field) : Walk :=
  match members.lookup (Text.ofString f.name) with
  | some v => check (path.member f.name) v f.memberField
  | none => if f.isOptional then .clear else found (path.member f.name) .missing

theorem checkMembers_eq (path : Path) (members : List (Text × Json)) (fields : List Field) :
    checkMembers path members fields = .concat (fields.map (memberWalk path members)) := by
  induction fields with
  | nil => rfl
  | cons f rest ih =>
    rw [checkMembers_cons, ih]
    rfl

def unnamedKeys (members : List (Text × Json)) (fields : List Field) : List Text :=
  (members.map (·.1)).filter fun key => fields.all (Text.ofString ·.name ≠ key)

theorem checkUnexpected_eq (path : Path) (members : List (Text × Json)) (fields : List Field) :
    checkUnexpected path members fields =
      .concat ((unnamedKeys members fields).map fun key =>
        found (path.member key) .unexpected) := by
  rw [checkUnexpected, unnamedKeys, List.filter_map, List.map_map]
  rfl

end Objects

section Replacement

variable {key : Text} {v w : Json} {before after : List (Text × Json)}

theorem lookup_at (h : key ∉ before.map (·.1)) :
    (before ++ (key, v) :: after).lookup key = some v := by
  refine List.lookup_eq_some_iff.2 ⟨before, after, rfl, fun m hm => ?_⟩
  have other : key ≠ m.1 := fun he => h (he ▸ List.mem_map_of_mem hm)
  simpa using other

theorem lookup_elsewhere {k : Text} (h : k ≠ key) :
    (before ++ (key, v) :: after).lookup k = (before ++ (key, w) :: after).lookup k := by
  have other : (k == key) = false := by simpa using h
  simp [List.lookup_append, List.lookup_cons, other]

/-- The walk along the member of another field does not look at the value that is replaced. -/
theorem memberWalk_elsewhere (path : Path) {f : Field} (h : Text.ofString f.name ≠ key) :
    memberWalk path (before ++ (key, v) :: after) f =
      memberWalk path (before ++ (key, w) :: after) f := by
  rw [memberWalk, memberWalk, lookup_elsewhere h]

theorem unnamedKeys_replace (fields : List Field) :
    unnamedKeys (before ++ (key, v) :: after) fields =
      unnamedKeys (before ++ (key, w) :: after) fields := by
  simp [unnamedKeys]

end Replacement

section Places

/-- Two values that differ at one place only, where they are `u` and `u'`. On the way there are
objects and arrays. -/
inductive DifferAt (u u' : Json) : List Step → Json → Json → Prop where
  | here : DifferAt u u' [] u u'
  | member {key : Text} {steps : List Step} {v w : Json} {before after : List (Text × Json)} :
    key ∉ before.map (·.1) → DifferAt u u' steps v w →
    DifferAt u u' (.member key :: steps) (.object (before ++ (key, v) :: after))
      (.object (before ++ (key, w) :: after))
  | item {steps : List Step} {v w : Json} {before after : List Json} : DifferAt u u' steps v w →
    DifferAt u u' (.item before.length :: steps) (.array (before ++ v :: after))
      (.array (before ++ w :: after))

/-- The field that the value at a place is checked against, where no variant is on the way. There is
none inside a member that no field is named after. -/
inductive Governs : Field → List Step → Option Field → Prop where
  | here (f : Field) : Governs f [] (some f)
  | member {label : Label} {fields : List Field} {f : Field} {steps : List Step}
    {g : Option Field} : f ∈ fields → Governs f.memberField steps g →
    Governs (.object label fields) (.member (Text.ofString f.name) :: steps) g
  | unexpected {label : Label} {fields : List Field} {key : Text} {steps : List Step} :
    (∀ f ∈ fields, Text.ofString f.name ≠ key) →
    Governs (.object label fields) (.member key :: steps) none
  | item {label : Label} {element : Field} {b : Bounds Nat} {index : Nat} {steps : List Step}
    {g : Option Field} : Governs element steps g →
    Governs (.array label element b) (.item index :: steps) g
  | optional {label : Label} {inner : Field} {steps : List Step} {g : Option Field} : steps ≠ [] →
    Governs inner steps g → Governs (.optional label inner) steps g

def walkAt (path : Path) (v : Json) : Option Field → Walk
  | some f => check path v f
  | none => .clear

def Path.extend (path : Path) (steps : List Step) : Path :=
  { path with steps := path.steps ++ steps }

theorem Path.extend_member (path : Path) (key : Text) (steps : List Step) :
    path.extend (.member key :: steps) = (path.member key).extend steps := by
  simp [extend, member]

theorem Path.extend_item (path : Path) (index : Nat) (steps : List Step) :
    path.extend (.item index :: steps) = (path.item index).extend steps := by
  simp [extend, item]

/-- Two walks that are the same but for one part, which is `x` in one and `y` in the other. -/
def SameAround (x y a b : Walk) : Prop :=
  ∃ front back, a = front ++ x ++ back ∧ b = front ++ y ++ back

namespace SameAround

variable {x y a b : Walk}

theorem self (x y : Walk) : SameAround x y x y := ⟨.clear, .clear, by simp, by simp⟩

theorem unchanged (a : Walk) : SameAround .clear .clear a a := ⟨a, .clear, by simp, by simp⟩

theorem within (h : SameAround x y a b) (front back : Walk) :
    SameAround x y (front ++ a ++ back) (front ++ b ++ back) := by
  obtain ⟨before, after, rfl, rfl⟩ := h
  refine ⟨front ++ before, after ++ back, ?_, ?_⟩ <;> simp only [Walk.append_assoc]

theorem among (h : SameAround x y a b) (before after : List Walk) (back : Walk) :
    SameAround x y (Walk.concat (before ++ a :: after) ++ back)
      (Walk.concat (before ++ b :: after) ++ back) := by
  have split : ∀ w, Walk.concat (before ++ w :: after) ++ back =
      Walk.concat before ++ w ++ (Walk.concat after ++ back) := by
    intro w
    rw [Walk.concat_append, Walk.concat_cons]
    simp only [Walk.append_assoc]
  rw [split, split]
  exact h.within _ _

end SameAround

variable {u u' v w : Json} {steps : List Step} {f : Field} {g : Option Field}

theorem map_memberWalk_elsewhere {key : Text} {before after : List (Text × Json)} (path : Path)
    {fields : List Field} (other : ∀ f ∈ fields, Text.ofString f.name ≠ key) :
    fields.map (memberWalk path (before ++ (key, v) :: after)) =
      fields.map (memberWalk path (before ++ (key, w) :: after)) :=
  List.map_congr_left fun _ hf => memberWalk_elsewhere path (other _ hf)

theorem memberWalk_at {key : Text} {before after : List (Text × Json)} (path : Path) {f : Field}
    (new : key ∉ before.map (·.1)) (named : Text.ofString f.name = key) :
    memberWalk path (before ++ (key, v) :: after) f = check (path.member key) v f.memberField := by
  rw [memberWalk, named, lookup_at new]

theorem check_object (path : Path) (label : Label) (fields : List Field)
    (members : List (Text × Json)) :
    check path (.object members) (.object label fields) =
      .concat (fields.map (memberWalk path members)) ++
        .concat ((unnamedKeys members fields).map fun key =>
          found (path.member key) .unexpected) := by
  rw [check, checkMembers_eq, checkUnexpected_eq]

/-- The walk along an item, which comes with its index. -/
def itemWalk (path : Path) (element : Field) (item : Json × Nat) : Walk :=
  check (path.item item.2) item.1 element

theorem check_array (path : Path) (label : Label) (element : Field) (b : Bounds Nat)
    (items : List Json) :
    check path (.array items) (.array label element b) =
      expect (b.admits items.length) path (.arrayLength items.length b) ++
        .concat (items.zipIdx.map (itemWalk path element)) := by
  rw [check]
  rfl

theorem other_names {front back : List Field}
    (distinct : ((front ++ f :: back).map Field.name).Nodup) :
    ∀ h ∈ front ++ back, Text.ofString h.name ≠ Text.ofString f.name := by
  have moved : ((f :: (front ++ back)).map Field.name).Nodup :=
    (List.perm_middle.map Field.name).nodup_iff.1 distinct
  rw [List.map_cons, List.nodup_cons] at moved
  intro h hh same
  exact moved.1 (List.mem_map.2 ⟨h, hh, Text.ofString_injective same⟩)

theorem DifferAt.not_null (h : DifferAt u u' steps v w) (some_step : steps ≠ []) :
    v ≠ .null ∧ w ≠ .null := by
  cases h with
  | here => exact absurd rfl some_step
  | member | item => exact ⟨nofun, nofun⟩

theorem check_optional (path : Path) (label : Label) (h : v ≠ .null) :
    check path v (.optional label f) = check path v f := by
  rw [check]
  exact h

/-- Of two values that differ at one place the walks are the same around the walk along it. -/
theorem sameAround_check (hf : f.WellFormed) (hg : Governs f steps g)
    (hd : DifferAt u u' steps v w) (path : Path) :
    SameAround (walkAt (path.extend steps) u g) (walkAt (path.extend steps) u' g)
      (check path v f) (check path w f) := by
  induction hg generalizing v w path with
  | here f =>
    cases hd
    rw [Path.extend, List.append_nil]
    exact .self _ _
  | @member label fields f steps g member _ ih =>
    cases hd with
    | @member _ _ v w before after new differ =>
      have inner := ih (Field.closed_wellFormed.memberField (Field.closed_wellFormed _ hf f member))
        differ (path.member (Text.ofString f.name))
      have distinct : (fields.map Field.name).Nodup := (Field.wellFormed_iff_children.1 hf).1
      obtain ⟨front, back, rfl⟩ := List.append_of_mem member
      have others := other_names distinct
      obtain ⟨others_front, others_back⟩ := List.forall_mem_append.1 others
      rw [check_object, check_object, unnamedKeys_replace _ (v := v) (w := w)]
      simp only [List.map_append, List.map_cons, memberWalk_at path new rfl]
      rw [map_memberWalk_elsewhere path others_front, map_memberWalk_elsewhere path others_back]
      rw [Path.extend_member]
      exact inner.among _ _ _
  | @unexpected label fields key steps other =>
    cases hd with
    | @member _ _ v w before after new differ =>
      rw [check_object, check_object, unnamedKeys_replace _ (v := v) (w := w),
        map_memberWalk_elsewhere path other]
      exact .unchanged _
  | @item label element b index steps g _ ih =>
    cases hd with
    | @item _ v w before after differ =>
      have inner := ih (Field.closed_wellFormed _ hf element (by simp [Field.children])) differ
        (path.item before.length)
      rw [Path.extend_item, check_array, check_array]
      simp only [List.zipIdx_append, List.zipIdx_cons, List.map_append, List.map_cons,
        List.length_append, List.length_cons, Nat.zero_add]
      have both := (inner.among (before.zipIdx.map (itemWalk path element))
        ((after.zipIdx (before.length + 1)).map (itemWalk path element)) .clear).within
          (expect (b.admits (before.length + (after.length + 1))) path
            (.arrayLength (before.length + (after.length + 1)) b)) .clear
      simpa only [itemWalk, Walk.append_clear] using both
  | optional some_step _ ih =>
    obtain ⟨hv, hw⟩ := hd.not_null some_step
    rw [check_optional path _ hv, check_optional path _ hw]
    exact ih (Field.closed_wellFormed _ hf _ (by simp [Field.children])) hd path

end Places

section Reports

variable {path : Path} {v : Json} {f : Field} {w : Walk}

/-- At most one mismatch, and that at the path itself. -/
def AtMostOne (path : Path) (found : List Violation) : Prop :=
  found.length ≤ 1 ∧ ∀ m ∈ found, m.path = path

theorem atMostOne_clear : AtMostOne path Walk.clear.violations := ⟨by simp, by simp⟩

theorem atMostOne_found (m : Mismatch) : AtMostOne path (found path m).violations :=
  ⟨Nat.le_refl 1, fun _ hm => by rw [List.mem_singleton.1 hm]⟩

theorem atMostOne_expect (ok : Bool) (m : Mismatch) :
    AtMostOne path (expect ok path m).violations := by
  cases ok with
  | true => exact atMostOne_clear
  | false => exact atMostOne_found m

theorem atMostOne_verdict (m : Mismatch) (r : Option Bool) :
    AtMostOne path (verdict path m r).violations := by
  cases r with
  | none => exact atMostOne_clear
  | some ok => exact atMostOne_expect ok m

theorem atMostOne_alternatives (names : List String) {alternatives : List Field}
    (h : (checkAlternatives path v names alternatives).overflowed = false) :
    AtMostOne path (checkAlternatives path v names alternatives).violations := by
  induction alternatives with
  | nil =>
    rw [checkAlternatives]
    exact atMostOne_found _
  | cons f rest ih =>
    rw [checkAlternatives] at h ⊢
    split at h
    next accepted =>
      rw [if_pos accepted]
      have none : (check path v f).violations = [] := by simpa [h] using accepted
      rw [none]
      exact atMostOne_clear
    next rejected =>
      rw [if_neg rejected, Walk.violations_append h]
      exact ih (by simpa using h)

theorem atMostOne_constant (expected : Scalar) :
    AtMostOne path (checkConstant path v expected).violations := by
  unfold checkConstant
  dsimp only
  split
  · exact atMostOne_expect _ _
  · exact atMostOne_expect _ _
  · exact atMostOne_verdict _ _
  · exact atMostOne_verdict _ _
  · exact atMostOne_found _

theorem atMostOne_choice (options : Options) :
    AtMostOne path (checkChoice path v options).violations := by
  unfold checkChoice
  dsimp only
  split
  · exact atMostOne_expect _ _
  · exact atMostOne_found _
  · exact atMostOne_expect _ _
  · exact atMostOne_found _
  · exact atMostOne_verdict _ _
  · exact atMostOne_verdict _ _
  · exact atMostOne_found _

theorem atMostOne_pattern (s : Text) (p : Pattern) (lengths : Bounds Nat) :
    AtMostOne path (checkPattern path s p lengths).violations := by
  unfold checkPattern
  dsimp only
  split
  · exact atMostOne_found _
  · exact atMostOne_expect _ _

/-- What a walk finds, part by part. An object reports each field, whose member is missing or not,
and then each key without a field; an array its length and then each item. Nothing else is looked
into, and of a variant nothing more than that no alternative was accepted. -/
def Itemised (path : Path) (v : Json) (found : List Violation) : Field → Prop
  | .object _ fields =>
    match v with
    | .object members =>
      found = fields.flatMap (fun f =>
          match members.lookup (Text.ofString f.name) with
          | some v => (check (path.member f.name) v f.memberField).violations
          | none => if f.isOptional then [] else [⟨path.member f.name, .missing⟩]) ++
        (unnamedKeys members fields).map fun key => ⟨path.member key, .unexpected⟩
    | _ => AtMostOne path found
  | .array _ element lengths =>
    match v with
    | .array items =>
      found = (if lengths.admits items.length then []
          else [⟨path, .arrayLength items.length lengths⟩]) ++
        items.zipIdx.flatMap fun (item, index) => (check (path.item index) item element).violations
    | _ => AtMostOne path found
  | .optional _ inner =>
    match v with
    | .null => found = []
    | _ => found = (check path v inner).violations
  | _ => AtMostOne path found

theorem violations_memberWalk (members : List (Text × Json)) (f : Field) :
    (memberWalk path members f).violations =
      match members.lookup (Text.ofString f.name) with
      | some v => (check (path.member f.name) v f.memberField).violations
      | none => if f.isOptional then [] else [⟨path.member f.name, .missing⟩] := by
  unfold memberWalk
  split
  · rfl
  · split <;> rfl

theorem itemised_check (h : (check path v f).overflowed = false) :
    Itemised path v (check path v f).violations f := by
  cases f with
  | object label fields =>
    cases v with
    | object members =>
      rw [check_object] at h ⊢
      obtain ⟨known, unknown⟩ := Walk.fits_append.1 h
      rw [Itemised, Walk.violations_append h, Walk.violations_concat known,
        Walk.violations_concat unknown]
      simp only [List.flatMap_map, violations_memberWalk]
      rw [List.map_eq_flatMap]
      rfl
    | _ => exact atMostOne_found _
  | array label element lengths =>
    cases v with
    | array items =>
      rw [check_array] at h ⊢
      rw [Itemised, Walk.violations_append h, Walk.violations_concat (Walk.fits_append.1 h).2]
      rw [List.flatMap_map]
      cases lengths.admits items.length <;> rfl
    | _ => exact atMostOne_found _
  | optional label inner => cases v <;> rfl
  | constant label expected =>
    rw [check]
    exact atMostOne_constant expected
  | choice label options =>
    rw [check]
    exact atMostOne_choice options
  | variant label alternatives =>
    unfold check at h ⊢
    split at h
    · exact atMostOne_alternatives _ h
    · exact atMostOne_found _
  | integer =>
    unfold check
    split
    · exact atMostOne_expect _ _
    · exact atMostOne_found _
  | real =>
    unfold check
    split
    · exact atMostOne_verdict _ _
    · exact atMostOne_found _
  | string =>
    unfold check
    split
    · exact atMostOne_expect _ _
    · exact atMostOne_found _
  | template label p lengths =>
    unfold check
    split
    · exact atMostOne_pattern _ p lengths
    · exact atMostOne_found _
  | boolean =>
    unfold check
    split
    · exact atMostOne_clear
    · exact atMostOne_found _

end Reports

section Findings

variable {x y a b : Walk}

theorem SameAround.violations (h : SameAround x y a b) (ha : a.overflowed = false)
    (hb : b.overflowed = false) : ∃ front back,
      a.violations = front ++ x.violations ++ back ∧
      b.violations = front ++ y.violations ++ back := by
  obtain ⟨front, back, rfl, rfl⟩ := h
  have parts : ∀ {w : Walk}, (front ++ w ++ back).overflowed = false →
      (front ++ w ++ back).violations = front.violations ++ w.violations ++ back.violations := by
    intro w hw
    rw [Walk.violations_append hw, Walk.violations_append (Walk.fits_append.1 hw).1]
  exact ⟨_, _, parts ha, parts hb⟩

theorem findings_eq_ok {root : String} {found : List Finding}
    (h : (a.verdict root).findings = .ok found) :
    a.overflowed = false ∧ found = a.violations.map .mismatch := by
  unfold Walk.verdict at h
  dsimp only at h
  split at h
  next => exact absurd h nofun
  next fits => exact ⟨by simpa using fits, (Except.ok.inj h).symm⟩

def findingsAt (root : String) (steps : List Step) (v : Json) (g : Option Field) : List Finding :=
  (walkAt ⟨root, steps⟩ v g).violations.map .mismatch

/-- Where two documents differ at one place only, the same is found in both before and after what is
found at this place. And all that is found is found on account of one part: nothing found for one
hides what there is to find for another. -/
theorem findings_local {f : Field} (hf : Constructed f) :
    (∀ (steps : List Step) (g : Option Field) (u u' v w : Json) (a b : List Finding),
      Governs f steps g → DifferAt u u' steps v w →
      (checkRoot v (.field f)).findings = .ok a → (checkRoot w (.field f)).findings = .ok b →
      ∃ front back, a = front ++ findingsAt f.name steps u g ++ back ∧
        b = front ++ findingsAt f.name steps u' g ++ back) ∧
    ∀ (path : Path) (v : Json), (check path v f).overflowed = false →
      Itemised path v (check path v f).violations f := by
  refine ⟨?_, fun path v => itemised_check⟩
  intro steps g u u' v w a b governs differ ha hb
  obtain ⟨fits_v, rfl⟩ := findings_eq_ok ha
  obtain ⟨fits_w, rfl⟩ := findings_eq_ok hb
  have around := sameAround_check hf.wellFormed governs differ ⟨f.name, []⟩
  obtain ⟨front, back, of_v, of_w⟩ := around.violations fits_v fits_w
  refine ⟨front.map .mismatch, back.map .mismatch, ?_, ?_⟩
  · rw [of_v, List.map_append, List.map_append]
    rfl
  · rw [of_w, List.map_append, List.map_append]
    rfl

def sizeField : Field := .integer ⟨"item size", none, by decide, by decide⟩ ⟨1, 9, by decide⟩

def order : Field := .object ⟨"order", none, by decide, by decide⟩
  [.array ⟨"sizes", none, by decide, by decide⟩ sizeField ⟨1, 2, by decide⟩,
    .boolean ⟨"paid", none, by decide, by decide⟩]

/-- An order of too many sizes, one of them out of range, and with an unknown member in place of a
required one. -/
def orderOf (size : Json) : Json :=
  .object [("sizes", .array [size, .int 5, .int 12]), ("unpaid", .null)]

/-- Whatever the first size is, the four other faults are found. -/
theorem first_size_replaced : Constructed order ∧ ∃ front back : List Finding,
    front.length + back.length = 4 ∧
    let place : Path := ⟨"order", [.member "sizes", .item 0]⟩
    (checkRoot (orderOf (.int 0)) (.field order)).findings =
      .ok (front ++ [.mismatch ⟨place, .range (.int 0) (.int 1) (.int 9)⟩] ++ back) ∧
    (checkRoot (orderOf (.bool true)) (.field order)).findings =
      .ok (front ++ [.mismatch ⟨place, .typeName "integer" "boolean"⟩] ++ back) := by
  have built : Constructed order := Field.WellFormed.constructed (by decide)
  have governs : Governs order [.member "sizes", .item 0] (some sizeField) :=
    .member List.mem_cons_self (.item (.here _))
  have differ : DifferAt (.int 0) (.bool true) [.member "sizes", .item 0] (orderOf (.int 0))
      (orderOf (.bool true)) :=
    @DifferAt.member _ _ _ _ _ _ [] _ List.not_mem_nil (@DifferAt.item _ _ _ _ _ [] _ .here)
  have first : ∃ a, (checkRoot (orderOf (.int 0)) (.field order)).findings = .ok a ∧
    a.length = 5 := ⟨_, rfl, rfl⟩
  have second : ∃ b, (checkRoot (orderOf (.bool true)) (.field order)).findings = .ok b := ⟨_, rfl⟩
  obtain ⟨a, found, count⟩ := first
  obtain ⟨b, found'⟩ := second
  obtain ⟨front, back, rfl, rfl⟩ := (findings_local built).1 _ _ _ _ _ _ a b governs differ
    found found'
  refine ⟨built, front, back, ?_, found, found'⟩
  rw [List.length_append, List.length_append] at count
  have one : (findingsAt order.name [.member "sizes", .item 0] (.int 0)
    (some sizeField)).length = 1 := rfl
  omega

end Findings

end FieldSchema.Validation
