import FieldSchema.Proofs.Json.Values
import FieldSchema.Proofs.Validation.HintPaths
import Mathlib.Data.List.Forall2

/-! The order of members. Members are looked up by the names of the fields, so walks along values
that differ in the order of members come to the same mismatches in the same order; only keys that
no field is named after are told of in the order of the document. -/
namespace FieldSchema.Validation

/-- Values that differ only in the order of members, at any depth. -/
inductive Reordered : Json → Json → Prop where
  | same (v : Json) : Reordered v v
  | array {items others : List Json} : List.Forall₂ Reordered items others →
    Reordered (.array items) (.array others)
  | object {members others : List (Text × Json)} :
    (members.map (·.1)).Perm (others.map (·.1)) →
    (∀ key v w, members.lookup key = some v → others.lookup key = some w → Reordered v w) →
    Reordered (.object members) (.object others)

section Values

variable {members middle others : List (Text × Json)}

theorem lookup_forall₂ {key : Text} {v : Json}
    (each : List.Forall₂ (fun m n => m.1 = n.1 ∧ Reordered m.2 n.2) members middle)
    (hv : members.lookup key = some v) :
    ∃ u, middle.lookup key = some u ∧ Reordered v u := by
  induction each with
  | nil => exact absurd hv nofun
  | @cons m n _ _ h _ ih =>
    rw [List.lookup_cons] at hv ⊢
    rw [← h.1]
    split at hv
    next => exact ⟨_, rfl, Option.some.inj hv ▸ h.2⟩
    next => exact ih hv

/-- Members put in another order after their values have been reordered. -/
theorem Reordered.of_perm (distinct : (members.map (·.1)).Nodup)
    (each : List.Forall₂ (fun m n => m.1 = n.1 ∧ Reordered m.2 n.2) members middle)
    (order : middle.Perm others) : Reordered (.object members) (.object others) := by
  have keys : members.map (·.1) = middle.map (·.1) := by
    rw [← List.forall₂_eq_eq_eq, List.forall₂_map_left_iff, List.forall₂_map_right_iff]
    exact each.imp fun _ _ h => h.1
  have middleDistinct : (middle.map (·.1)).Nodup := keys ▸ distinct
  have othersDistinct : (others.map (·.1)).Nodup := (order.map _).nodup_iff.1 middleDistinct
  refine .object (keys ▸ order.map _) fun key v w hv hw => ?_
  obtain ⟨u, hu, same⟩ := lookup_forall₂ each hv
  rw [Json.lookup_iff_mem othersDistinct, ← order.mem_iff, ← Json.lookup_iff_mem middleDistinct,
    hu] at hw
  exact Option.some.inj hw ▸ same

theorem lookup_reordered {key : Text} (keys : (members.map (·.1)).Perm (others.map (·.1))) :
    (members.lookup key).isSome = (others.lookup key).isSome := by
  rw [Bool.eq_iff_iff, Json.lookup_isSome_iff_mem_keys, Json.lookup_isSome_iff_mem_keys,
    keys.mem_iff]

end Values

def Mismatch.isUnexpected : Mismatch → Bool
  | unexpected => true
  | _ => false

def expectedPaths (found : List Violation) : List Path :=
  (found.filter (!·.mismatch.isUnexpected)).map Violation.path

/-- Two walks that meet mismatches on the same paths, those of unexpected keys in any order. -/
structure Walk.Alike (a b : Walk) : Prop where
  overflowed : a.overflowed = b.overflowed
  paths : (a.violations.map Violation.path).Perm (b.violations.map Violation.path)
  expected : expectedPaths a.violations = expectedPaths b.violations

namespace Walk.Alike

variable {a a' b b' : Walk} {path : Path}

theorem refl (a : Walk) : a.Alike a := ⟨rfl, .refl _, rfl⟩

theorem isEmpty (h : a.Alike b) : a.violations.isEmpty = b.violations.isEmpty := by
  have length := h.paths.length_eq
  rw [List.length_map, List.length_map] at length
  rw [Bool.eq_iff_iff, List.isEmpty_iff_length_eq_zero, List.isEmpty_iff_length_eq_zero, length]

theorem append (h : a.Alike b) (h' : a'.Alike b') : (a ++ a').Alike (b ++ b') := by
  rw [append_def, append_def, h.overflowed]
  split
  next => exact h
  next =>
    refine ⟨h'.overflowed, ?_, ?_⟩
    · simpa using h.paths.append h'.paths
    · have both := congrArg₂ (· ++ ·) h.expected h'.expected
      simpa [expectedPaths] using both

theorem concat {walks others : List Walk} (h : List.Forall₂ Alike walks others) :
    (concat walks).Alike (concat others) := by
  induction h with
  | nil => exact refl _
  | cons h _ ih => exact h.append ih

theorem concat_map {α : Type} {walk other : α → Walk} {items : List α}
    (h : ∀ x ∈ items, (walk x).Alike (other x)) :
    (Walk.concat (items.map walk)).Alike (Walk.concat (items.map other)) := by
  refine concat ?_
  rw [List.forall₂_map_left_iff, List.forall₂_map_right_iff, List.forall₂_same]
  exact h

theorem found {m m' : Mismatch} (h : m.isUnexpected = false) (h' : m'.isUnexpected = false) :
    (Validation.found path m).Alike (Validation.found path m') :=
  ⟨rfl, .refl _, by simp [expectedPaths, Validation.found, h, h']⟩

theorem concat_unexpected (path : Path) (keys : List Text) :
    Walk.concat (keys.map fun key => Validation.found (path.member key) .unexpected) =
      ⟨keys.map fun key => ⟨path.member key, .unexpected⟩, [], false⟩ := by
  induction keys with
  | nil => rfl
  | cons key keys ih =>
    rw [List.map_cons, concat_cons, ih]
    rfl

theorem expectedPaths_unexpected (path : Path) (keys : List Text) :
    expectedPaths (keys.map fun key => ⟨path.member key, .unexpected⟩) = [] := by
  rw [expectedPaths, List.filter_map]
  simp [Function.comp_def, Mismatch.isUnexpected]

theorem unexpected {keys others : List Text} (h : keys.Perm others) :
    (Walk.concat (keys.map fun key => Validation.found (path.member key) .unexpected)).Alike
      (Walk.concat (others.map fun key => Validation.found (path.member key) .unexpected)) := by
  rw [concat_unexpected, concat_unexpected]
  refine ⟨rfl, ?_, ?_⟩
  · rw [List.map_map, List.map_map]
    exact h.map path.member
  · rw [expectedPaths_unexpected, expectedPaths_unexpected]

end Walk.Alike

section Checks

variable {path : Path} {v w : Json} {f : Field} {fields : List Field}
  {members others : List (Text × Json)}

theorem alike_alternatives {names : List String}
    (h : ∀ f ∈ fields, (check path v f).Alike (check path w f)) :
    (checkAlternatives path v names fields).Alike (checkAlternatives path w names fields) := by
  induction fields with
  | nil =>
    rw [checkAlternatives, checkAlternatives]
    exact .refl _
  | cons f rest ih =>
    obtain ⟨first, later⟩ := List.forall_mem_cons.1 h
    rw [checkAlternatives, checkAlternatives, first.overflowed, first.isEmpty]
    split
    next => exact first
    next => exact Walk.Alike.append ⟨rfl, .refl _, rfl⟩ (ih later)

theorem alike_memberWalk (keys : (members.map (·.1)).Perm (others.map (·.1)))
    (h : ∀ v w, members.lookup (Text.ofString f.name) = some v →
      others.lookup (Text.ofString f.name) = some w →
      (check (path.member f.name) v f.memberField).Alike
        (check (path.member f.name) w f.memberField)) :
    (memberWalk path members f).Alike (memberWalk path others f) := by
  have both : (members.lookup (Text.ofString f.name)).isSome =
      (others.lookup (Text.ofString f.name)).isSome := lookup_reordered keys
  unfold memberWalk
  cases hv : members.lookup (Text.ofString f.name) with
  | none =>
    rw [hv, Option.isSome_none, eq_comm, Option.isSome_eq_false_iff, Option.isNone_iff_eq_none]
      at both
    rw [both]
    exact .refl _
  | some v =>
    rw [hv, Option.isSome_some, eq_comm] at both
    obtain ⟨w, hw⟩ := Option.isSome_iff_exists.1 both
    rw [hw]
    exact h v w hv hw

theorem alike_items {element : Field} {items others : List Json} (index : Nat)
    (h : List.Forall₂ (fun v w => ∀ path, (check path v element).Alike (check path w element))
      items others) :
    (Walk.concat ((items.zipIdx index).map (itemWalk path element))).Alike
      (Walk.concat ((others.zipIdx index).map (itemWalk path element))) := by
  induction h generalizing index with
  | nil => exact .refl _
  | cons first _ ih => exact (first _).append (ih _)

/-- Reordered values are checked alike. -/
theorem Reordered.alike (h : Reordered v w) (f : Field) (path : Path) :
    (check path v f).Alike (check path w f) := by
  induction f using Field.induct_members generalizing path v w with
  | step f ih =>
    cases f with
    | object label fields =>
      cases h with
      | same => exact .refl _
      | array =>
        simp only [check]
        exact .found rfl rfl
      | object keys values =>
        rw [check_object, check_object]
        refine .append (.concat_map fun g hg => alike_memberWalk keys fun v w hv hw => ?_)
          (.unexpected (keys.filter _))
        exact (ih g hg).2 (values _ v w hv hw) _
    | variant label alternatives =>
      have each := fun g hg => (ih g hg).1 h path
      cases h with
      | same => exact .refl _
      | array =>
        simp only [check]
        exact .found rfl rfl
      | object =>
        rw [check, check]
        exact alike_alternatives each
    | array label element lengths =>
      cases h with
      | same => exact .refl _
      | array each =>
        rw [check_array, check_array, each.length_eq]
        refine Walk.Alike.append (.refl _) (alike_items 0 (each.imp fun v w h path => ?_))
        exact (ih element (by simp [Field.children])).1 h path
      | object =>
        simp only [check]
        exact .found rfl rfl
    | optional label inner =>
      have below := (ih inner (by simp [Field.children])).1 h path
      cases h with
      | same => exact .refl _
      | array | object =>
        rw [check, check]
        · exact below
        · exact nofun
        · exact nofun
    | constant label expected =>
      cases h with
      | same => exact .refl _
      | array | object =>
        rw [check, check]
        cases expected <;> exact .found rfl rfl
    | choice label options =>
      cases h with
      | same => exact .refl _
      | array | object =>
        rw [check, check]
        cases options <;> exact .found rfl rfl
    | integer | real | string | boolean | template =>
      cases h with
      | same => exact .refl _
      | array | object =>
        simp only [check]
        exact .found rfl rfl

end Checks

section Findings

def Finding.isUnexpected : Finding → Bool
  | mismatch v => v.mismatch.isUnexpected
  | blank | unreadable _ _ => false

/-- Documents that differ only in the order of members get the same verdict, or none for the same
reason. The paths of what is found are the same apart from their order, and the same in order but
for unexpected keys. -/
theorem findings_reordered {f : Field} {text other : Option (List Char)} {v w : Json}
    (hv : Json.read (text.getD []) = .ok v) (hw : Json.read (other.getD []) = .ok w)
    (h : Reordered v w) :
    ((validate (.field f) text).findings = .error .integerTooLarge ↔
      (validate (.field f) other).findings = .error .integerTooLarge) ∧
    ∀ found found', (validate (.field f) text).findings = .ok found →
      (validate (.field f) other).findings = .ok found' →
      (found = [] ↔ found' = []) ∧
      (found.map (Finding.path f.name)).Perm (found'.map (Finding.path f.name)) ∧
      (found.filter (!·.isUnexpected)).map (Finding.path f.name) =
        (found'.filter (!·.isUnexpected)).map (Finding.path f.name) := by
  have alike := h.alike f ⟨f.name, []⟩
  rw [validate_of_read hv, validate_of_read hw]
  refine ⟨?_, fun found found' hf hf' => ?_⟩
  · rw [checkRoot, checkRoot, Walk.verdict, Walk.verdict, alike.overflowed]
    dsimp only
    split <;> simp
  · obtain ⟨-, rfl⟩ := findings_eq_ok hf
    obtain ⟨-, rfl⟩ := findings_eq_ok hf'
    have paths : ∀ violations : List Violation,
        (violations.map Finding.mismatch).map (Finding.path f.name) =
          violations.map Violation.path := fun _ => List.map_map
    have others : ∀ violations : List Violation,
        ((violations.map Finding.mismatch).filter (!·.isUnexpected)).map (Finding.path f.name) =
          expectedPaths violations := by
      intro violations
      rw [List.filter_map, List.map_map]
      rfl
    refine ⟨?_, ?_, ?_⟩
    · have empty := alike.isEmpty
      rw [Bool.eq_iff_iff, List.isEmpty_iff, List.isEmpty_iff] at empty
      rw [List.map_eq_nil_iff, List.map_eq_nil_iff, empty]
    · rw [paths, paths]
      exact alike.paths
    · rw [others, others]
      exact alike.expected

def pair : Field := .object ⟨"pair", none, by decide, by decide⟩
  [.integer ⟨"left", none, by decide, by decide⟩ ⟨0, 10, by decide⟩,
    .integer ⟨"right", none, by decide, by decide⟩ ⟨0, 10, by decide⟩]

def twelves (names : List String) : List Json.Entry :=
  names.map fun name => ⟨name, integerText 12, .int 12⟩

def twelvesValue (names : List String) : Json :=
  .object ((twelves names).map fun m => (m.key, m.value))

def twelvesDocument (names : List String) : Option (List Char) :=
  some ('\x7b' :: Json.commaSeparated ((twelves names).map Json.Entry.written) ++ ['\x7d'])

theorem read_twelves {names : List String} (distinct : ((twelves names).map (·.key)).Nodup)
    (shallow : (twelvesValue names).depth ≤ Json.depthLimit) :
    Json.read ((twelvesDocument names).getD []) = .ok (twelvesValue names) := by
  have each : ∀ m ∈ twelves names, Json.Spells m.text m.value := by
    intro m hm
    obtain ⟨name, -, rfl⟩ := List.mem_map.1 hm
    exact Json.spells_int (by decide)
  exact (Json.spells_object each distinct).read.trans (Json.within_of_le shallow _)

theorem reordered_twelves {front back : List String}
    (distinct : ((twelves (front ++ back)).map (·.key)).Nodup) :
    Reordered (twelvesValue (front ++ back)) (twelvesValue (back ++ front)) := by
  refine .of_perm (by rwa [List.map_map]) (List.forall₂_same.2 fun _ _ => ⟨rfl, .same _⟩) ?_
  simp only [twelves, List.map_append]
  exact List.perm_append_comm

def pairPaths (names : List String) : List Path := names.map fun name => ⟨"pair", [.member name]⟩

/-- Two numbers out of range are told of first, then two keys in the order of the document. -/
theorem twelves_told_alike : ∃ found found' : List Finding,
    (validate (.field pair) (twelvesDocument ["x", "right", "left", "y"])).findings = .ok found ∧
    (validate (.field pair) (twelvesDocument ["left", "y", "x", "right"])).findings = .ok found' ∧
    found.map (Finding.path "pair") = pairPaths ["left", "right", "x", "y"] ∧
    found'.map (Finding.path "pair") = pairPaths ["left", "right", "y", "x"] ∧
    (found.map (Finding.path "pair")).Perm (found'.map (Finding.path "pair")) ∧
    (found.filter (!·.isUnexpected)).map (Finding.path "pair") =
      (found'.filter (!·.isUnexpected)).map (Finding.path "pair") := by
  have read := @read_twelves ["x", "right", "left", "y"] (by decide) (by decide)
  have read' := @read_twelves ["left", "y", "x", "right"] (by decide) (by decide)
  have reordered := @reordered_twelves ["x", "right"] ["left", "y"] (by decide)
  have first : ∃ found,
      (checkRoot (twelvesValue ["x", "right", "left", "y"]) (.field pair)).findings = .ok found ∧
      found.map (Finding.path "pair") = pairPaths ["left", "right", "x", "y"] :=
    ⟨_, rfl, rfl⟩
  have second : ∃ found,
      (checkRoot (twelvesValue ["left", "y", "x", "right"]) (.field pair)).findings = .ok found ∧
      found.map (Finding.path "pair") = pairPaths ["left", "right", "y", "x"] :=
    ⟨_, rfl, rfl⟩
  rw [← validate_of_read read] at first
  rw [← validate_of_read read'] at second
  obtain ⟨found, hf, paths⟩ := first
  obtain ⟨found', hf', paths'⟩ := second
  obtain ⟨-, told, inOrder⟩ := (findings_reordered read read' reordered).2 found found' hf hf'
  exact ⟨found, found', hf, hf', paths, paths', told, inOrder⟩

end Findings

end FieldSchema.Validation
