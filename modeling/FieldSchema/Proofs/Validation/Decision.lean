import FieldSchema.Proofs.Json.Values
import FieldSchema.Proofs.Validation.Conformance
import Mathlib.Data.List.Basic

/-! The walk along a field decides whether the value conforms. Members, alternatives and items are
walks one after the other, so each decides what the fields below it decide together. -/
namespace FieldSchema.Validation

section Texts

theorem frames_iff {before after s : Text} :
    (s.length < before.length + after.length || !before.isPrefixOf s || !after.isSuffixOf s) =
      false ↔
      ∃ span, s = before ++ span ++ after := by
  simp only [Bool.or_eq_false_iff, decide_eq_false_iff_not, Nat.not_lt, Bool.not_eq_false',
    List.isPrefixOf_iff_prefix, List.isSuffixOf_iff_suffix]
  constructor
  · intro ⟨⟨hl, hp⟩, hs⟩
    obtain ⟨t, rfl⟩ := hp
    rw [List.length_append] at hl
    have inner : after <:+ t :=
      List.suffix_of_suffix_length_le hs (List.suffix_append before t) (by omega)
    obtain ⟨span, rfl⟩ := inner
    exact ⟨span, (List.append_assoc _ _ _).symm⟩
  · intro ⟨span, hs⟩
    subst hs
    refine ⟨⟨?_, ?_⟩, List.suffix_append _ _⟩
    · simp only [List.length_append]
      omega
    · rw [List.append_assoc]
      exact List.prefix_append _ _

theorem decides_template (path : Path) (s : Text) (label : Label) (p : Pattern) (b : Bounds Nat) :
    (checkPattern path s p b).Decides (Conforms (.string s) (.template label p b)) False := by
  unfold checkPattern
  dsimp only
  split
  next outside =>
    refine .reject (fun h => ?_) id
    cases h with
    | template =>
      rw [frames_iff.2 ⟨_, rfl⟩] at outside
      exact Bool.false_ne_true outside
  next inside =>
    obtain ⟨span, rfl⟩ := frames_iff.1 (Bool.eq_false_iff.2 inside)
    have length : (Text.ofString p.before ++ span ++ Text.ofString p.after).length -
        (Text.ofString p.before).length - (Text.ofString p.after).length = span.length := by
      simp only [List.length_append]
      omega
    rw [length]
    refine (Walk.Decides.expect _ path _).congr ?_ Iff.rfl
    rw [Bounds.admits_iff]
    constructor
    · intro h
      generalize hs : Text.ofString p.before ++ span ++ Text.ofString p.after = s at h
      cases h with
      | template low high =>
        rw [List.append_cancel_right_eq, List.append_cancel_left_eq] at hs
        rw [hs]
        exact ⟨low, high⟩
    · intro ⟨low, high⟩
      exact .template low high

end Texts

section Objects

variable {path : Path} {members : List (Text × Json)} {f : Field} {fields : List Field}

/-- A member that is there has to conform; one that is not has to be optional. -/
def MemberConforms (members : List (Text × Json)) (f : Field) : Prop :=
  match members.lookup (Text.ofString f.name) with
  | some v => Conforms v f.memberField
  | none => f.isOptional

def MemberOverflows (members : List (Text × Json)) (f : Field) : Prop :=
  ∃ v, members.lookup (Text.ofString f.name) = some v ∧ Overflows v f.memberField

theorem conforms_object_iff {label : Label} : Conforms (.object members) (.object label fields) ↔
    (∀ f ∈ fields, MemberConforms members f) ∧
      ∀ m ∈ members, ∃ f ∈ fields, Text.ofString f.name = m.1 := by
  constructor
  · intro h
    cases h with
    | object required present known =>
      refine ⟨fun f hf => ?_, known⟩
      unfold MemberConforms
      split
      next v hv => exact present f hf v hv
      next hn =>
        by_contra ho
        have found := required f hf (Bool.eq_false_iff.2 ho)
        rw [hn] at found
        exact Bool.false_ne_true found
  · intro ⟨each, known⟩
    refine .object (fun f hf ho => ?_) (fun f hf v hv => ?_) known
    · have member := each f hf
      unfold MemberConforms at member
      cases hl : members.lookup (Text.ofString f.name) with
      | some v => rfl
      | none =>
        rw [hl, ho] at member
        exact absurd member Bool.false_ne_true
    · have member := each f hf
      unfold MemberConforms at member
      rw [hv] at member
      exact member

theorem overflows_object_iff {label : Label} : Overflows (.object members) (.object label fields) ↔
    ∃ f ∈ fields, MemberOverflows members f := by
  constructor
  · intro h
    cases h with
    | object hf hv h => exact ⟨_, hf, _, hv, h⟩
  · intro ⟨f, hf, v, hv, h⟩
    exact .object hf hv h

/-- An object whose fields are all required has their members, in any order. -/
theorem conforms_object_iff_perm {label : Label} (required : ∀ f ∈ fields, f.isOptional = false)
    (names : (fields.map (Text.ofString ·.name)).Nodup) (keys : (members.map (·.1)).Nodup) :
    Conforms (.object members) (.object label fields) ↔
      ∃ values, List.Forall₂ (fun f v => Conforms v f) fields values ∧
        members.Perm ((fields.map (Text.ofString ·.name)).zip values) := by
  have inner : ∀ f ∈ fields, f.memberField = f := by
    intro f hf
    have needed := required f hf
    cases f with
    | optional => exact absurd needed nofun
    | _ => rfl
  constructor
  · intro h
    cases h with
    | object all present known =>
      let value := fun f : Field => (members.lookup (Text.ofString f.name)).getD .null
      have found : ∀ f ∈ fields, members.lookup (Text.ofString f.name) = some (value f) := by
        intro f hf
        obtain ⟨v, hv⟩ := Option.isSome_iff_exists.1 (all f hf (required f hf))
        simp [value, hv]
      refine ⟨fields.map value, ?_, ?_⟩
      · rw [List.forall₂_map_right_iff, List.forall₂_same]
        intro f hf
        have conforms := present f hf _ (found f hf)
        rwa [inner f hf] at conforms
      · have entries : ((fields.map fun f => (Text.ofString f.name, value f)).map (·.1)).Nodup := by
          rwa [List.map_map]
        rw [List.zip_map', List.perm_ext_iff_of_nodup keys.of_map entries.of_map]
        intro m
        rw [← Json.lookup_iff_mem keys, List.mem_map]
        constructor
        · intro hm
          obtain ⟨f, hf, name⟩ := known m ((Json.lookup_iff_mem keys).1 hm)
          rw [← name, found f hf] at hm
          exact ⟨f, hf, Prod.ext name (Option.some.inj hm)⟩
        · rintro ⟨f, hf, rfl⟩
          exact found f hf
  · rintro ⟨values, each, order⟩
    have entry : ∀ k v, (k, v) ∈ members →
        ∃ f ∈ fields, Text.ofString f.name = k ∧ Conforms v f := by
      intro k v hm
      rw [order.mem_iff, List.zip_map_left] at hm
      obtain ⟨⟨f, u⟩, hz, he⟩ := List.mem_map.1 hm
      obtain ⟨rfl, rfl⟩ := Prod.mk.inj he
      exact ⟨f, (List.of_mem_zip hz).1, rfl, List.forall₂_zip each hz⟩
    have named : (members.map (·.1)).Perm (fields.map (Text.ofString ·.name)) := by
      have same := order.map Prod.fst
      rwa [List.map_fst_zip (by simp [each.length_eq])] at same
    refine .object (fun f hf _ => ?_) (fun f hf v hv => ?_) fun m hm => ?_
    · rw [Json.lookup_isSome_iff_mem_keys, named.mem_iff]
      exact List.mem_map_of_mem hf
    · obtain ⟨g, hg, name, conforms⟩ := entry _ v ((Json.lookup_iff_mem keys).1 hv)
      obtain rfl := List.inj_on_of_nodup_map names hg hf name
      rwa [inner g hg]
    · obtain ⟨f, hf, name, -⟩ := entry m.1 m.2 hm
      exact ⟨f, hf, name⟩

theorem checkMembers_cons : checkMembers path members (f :: fields) =
    (match members.lookup (Text.ofString f.name) with
      | some v => check (path.member f.name) v f.memberField
      | none => if f.isOptional then .clear else found (path.member f.name) .missing) ++
        checkMembers path members fields := by
  cases f <;> rfl

theorem decides_unexpected (path : Path) (members : List (Text × Json)) (fields : List Field) :
    (checkUnexpected path members fields).Decides
    (∀ m ∈ members, ∃ f ∈ fields, Text.ofString f.name = m.1) False := by
  unfold checkUnexpected
  refine (Walk.Decides.concat fun m _ =>
    Walk.Decides.found (path.member m.1) .unexpected).congr ?_ (by simp)
  constructor
  · intro h m hm
    obtain ⟨hmem, hall⟩ := List.mem_filter.1 hm
    obtain ⟨f, hf, he⟩ := h m hmem
    simp only [List.all_eq_true, decide_eq_true_eq] at hall
    exact hall f hf he
  · intro h m hm
    by_contra hn
    refine h m (List.mem_filter.2 ⟨hm, ?_⟩)
    simp only [List.all_eq_true, decide_eq_true_eq]
    exact fun f hf he => hn ⟨f, hf, he⟩

end Objects

/-- An alternative is taken if it passes, and the rest are not tried after an overflow either. -/
theorem decides_alternative {walk rest passed : Walk} {fine large fine' large' : Prop}
    (h : walk.Decides fine large) (hr : rest.Decides fine' large') (hp : passed.Passes) :
    (if walk.overflowed || walk.violations.isEmpty then walk else passed ++ rest).Decides
      (fine ∨ fine') (large ∨ ¬ fine ∧ large') := by
  obtain ⟨overflows, passes⟩ := h
  by_cases hl : large
  · rw [overflows.2 hl, Bool.true_or, if_pos rfl]
    refine ⟨by simp [overflows, hl], ?_⟩
    rw [passes]
    simp [hl]
  · have fits : walk.overflowed = false := Bool.eq_false_iff.2 (mt overflows.1 hl)
    rw [fits, Bool.false_or]
    by_cases hf : fine
    · have clear := passes.2 ⟨hf, hl⟩
      rw [clear.2, List.isEmpty_nil, if_pos rfl]
      refine ⟨by simp [fits, hl, hf], ?_⟩
      simp [clear, hl, hf]
    · have filled : ¬ walk.violations.isEmpty := by
        rw [List.isEmpty_iff]
        intro hv
        exact hf (passes.1 ⟨fits, hv⟩).1
      rw [if_neg filled]
      constructor
      · simp [hp.1, hr.overflows, hl, hf]
      · rw [Walk.passes_append, hr.passes]
        simp [hp, hl, hf]

theorem conforms_integer_iff {n : Int} {label : Label} {b : Bounds Int} :
    Conforms (.int n) (.integer label b) ↔ b.low ≤ n ∧ n ≤ b.high := by
  constructor
  · intro h
    cases h with
    | integer low high => exact ⟨low, high⟩
  · rintro ⟨low, high⟩
    exact .integer low high

theorem conforms_string_iff {s : Text} {label : Label} {b : Bounds Nat} :
    Conforms (.string s) (.string label b) ↔ b.low ≤ s.length ∧ s.length ≤ b.high := by
  constructor
  · intro h
    cases h with
    | string low high => exact ⟨low, high⟩
  · rintro ⟨low, high⟩
    exact .string low high

theorem conforms_array_iff {items : List Json} {label : Label} {element : Field} {b : Bounds Nat} :
    Conforms (.array items) (.array label element b) ↔
      (b.low ≤ items.length ∧ items.length ≤ b.high) ∧ ∀ v ∈ items, Conforms v element := by
  constructor
  · intro h
    cases h with
    | array low high h => exact ⟨⟨low, high⟩, h⟩
  · rintro ⟨⟨low, high⟩, h⟩
    exact .array low high h

theorem overflows_array_iff {items : List Json} {label : Label} {element : Field}
    {b : Bounds Nat} :
    Overflows (.array items) (.array label element b) ↔ ∃ v ∈ items, Overflows v element := by
  constructor
  · intro h
    cases h with
    | array hv h => exact ⟨_, hv, h⟩
  · rintro ⟨v, hv, h⟩
    exact .array hv h

theorem conforms_variant_iff {members : List (Text × Json)} {label : Label}
    {alternatives : List Field} : Conforms (.object members) (.variant label alternatives) ↔
      ∃ f ∈ alternatives, Conforms (.object members) f := by
  constructor
  · intro h
    cases h with
    | variant hf h => exact ⟨_, hf, h⟩
  · intro ⟨f, hf, h⟩
    exact .variant hf h

section Forms

variable {v : Json} {l l' : Label} {ss : List String}

theorem conforms_boolean_iff : Conforms v (.boolean l) ↔ ∃ b, v = .bool b := by
  constructor
  · intro h
    cases h with
    | boolean => exact ⟨_, rfl⟩
  · rintro ⟨b, rfl⟩
    exact .boolean

theorem conforms_string_form {b : Bounds Nat} : Conforms v (.string l b) ↔
    ∃ s : Text, v = .string s ∧ b.low ≤ s.length ∧ s.length ≤ b.high := by
  constructor
  · intro h
    cases h with
    | string low high => exact ⟨_, rfl, low, high⟩
  · rintro ⟨s, rfl, low, high⟩
    exact .string low high

theorem matches_text_iff {s : String} : Matches v (.text s) ↔ v = .string s := by
  constructor
  · intro h
    cases h
    rfl
  · rintro rfl
    exact .text s

theorem conforms_textConstant_iff {s : String} :
    Conforms v (.constant l (.text s)) ↔ v = .string s :=
  conforms_constant_iff.trans matches_text_iff

theorem conforms_textChoice_iff : Conforms v (.choice l (.texts ss)) ↔ ∃ s ∈ ss, v = .string s := by
  rw [conforms_choice_iff]
  simp [Options.scalars, matches_text_iff]

theorem conforms_textItems_iff {b : Bounds Nat} : Conforms v (.array l (.choice l' (.texts ss)) b) ↔
    ∃ items, v = .array items ∧ (b.low ≤ items.length ∧ items.length ≤ b.high) ∧
      ∀ w ∈ items, ∃ s ∈ ss, w = .string s := by
  constructor
  · intro h
    cases h with
    | array low high each =>
      exact ⟨_, rfl, ⟨low, high⟩, fun w hw => conforms_textChoice_iff.1 (each w hw)⟩
  · rintro ⟨items, rfl, ⟨low, high⟩, each⟩
    exact .array low high fun w hw => conforms_textChoice_iff.2 (each w hw)

end Forms

/-- Something with nothing but others before it is the head of a list, or in the tail. -/
theorem exists_split_cons {α : Type} {p q : α → Prop} {a : α} {l : List α} :
    (∃ before b after, a :: l = before ++ b :: after ∧ (∀ x ∈ before, p x) ∧ q b) ↔
      q a ∨ p a ∧ ∃ before b after, l = before ++ b :: after ∧ (∀ x ∈ before, p x) ∧ q b := by
  constructor
  · rintro ⟨before, b, after, whole, others, found⟩
    cases before with
    | nil =>
      obtain ⟨rfl, -⟩ := List.cons.inj whole
      exact .inl found
    | cons c before =>
      obtain ⟨rfl, tail⟩ := List.cons.inj whole
      obtain ⟨other, others⟩ := List.forall_mem_cons.1 others
      exact .inr ⟨other, before, b, after, tail, others, found⟩
  · rintro (found | ⟨other, before, b, after, rfl, others, found⟩)
    · exact ⟨[], a, l, rfl, List.forall_mem_nil _, found⟩
    · exact ⟨a :: before, b, after, rfl, List.forall_mem_cons.2 ⟨other, others⟩, found⟩

/-- The walk along alternatives overflows in one of them, before any of them conforms. -/
def AnyOverflows (v : Json) : List Field → Prop
  | [] => False
  | f :: rest => Overflows v f ∨ ¬ Conforms v f ∧ AnyOverflows v rest

theorem anyOverflows_iff {v : Json} {fields : List Field} : AnyOverflows v fields ↔
    ∃ before f after, fields = before ++ f :: after ∧ (∀ g ∈ before, ¬ Conforms v g) ∧
      Overflows v f := by
  induction fields with
  | nil => simp [AnyOverflows]
  | cons f rest ih =>
    rw [AnyOverflows, ih, exists_split_cons]

theorem exists_mem_zipIdx {α : Type} (items : List α) (p : α → Prop) :
    (∃ item ∈ items.zipIdx, p item.1) ↔ ∃ x ∈ items, p x := by
  conv => rhs; rw [← List.zipIdx_map_fst 0 items]
  simp only [List.mem_map, exists_exists_and_eq_and]

theorem overflows_variant_iff {members : List (Text × Json)} {label : Label}
    {alternatives : List Field} : Overflows (.object members) (.variant label alternatives) ↔
      AnyOverflows (.object members) alternatives := by
  rw [anyOverflows_iff]
  constructor
  · intro h
    cases h with
    | variant hb h => exact ⟨_, _, _, rfl, hb, h⟩
  · intro ⟨before, f, after, he, hb, h⟩
    rw [he]
    exact .variant hb h

section Kinds

variable {label : Label}

theorem decides_integer (path : Path) (v : Json) (b : Bounds Int) :
    (check path v (.integer label b)).Decides (Conforms v (.integer label b))
      (Overflows v (.integer label b)) := by
  unfold check
  split
  next n =>
    refine (Walk.Decides.expect _ path _).congr ?_ (iff_false_intro nofun)
    rw [Bool.and_eq_true, decide_eq_true_iff, decide_eq_true_iff, conforms_integer_iff]
  next other =>
    refine .reject (fun h => ?_) nofun
    cases h with
    | integer => exact other _ rfl

theorem decides_string (path : Path) (v : Json) (b : Bounds Nat) :
    (check path v (.string label b)).Decides (Conforms v (.string label b))
      (Overflows v (.string label b)) := by
  unfold check
  split
  next s =>
    refine (Walk.Decides.expect _ path _).congr ?_ (iff_false_intro nofun)
    rw [Bounds.admits_iff, conforms_string_iff]
  next other =>
    refine .reject (fun h => ?_) nofun
    cases h with
    | string => exact other _ rfl

theorem decides_boolean (path : Path) (v : Json) :
    (check path v (.boolean label)).Decides (Conforms v (.boolean label))
      (Overflows v (.boolean label)) := by
  unfold check
  split
  next => exact .accept .boolean nofun
  next other =>
    refine .reject (fun h => ?_) nofun
    cases h with
    | boolean => exact other _ rfl

theorem decides_array {element : Field}
    (each : ∀ path v, (check path v element).Decides (Conforms v element) (Overflows v element))
    (path : Path) (v : Json) (b : Bounds Nat) :
    (check path v (.array label element b)).Decides (Conforms v (.array label element b))
      (Overflows v (.array label element b)) := by
  unfold check
  split
  next items =>
    have walk := (Walk.Decides.expect (b.admits items.length) path
      (.arrayLength items.length b)).append
        (.concat fun (m : Json × Nat) (_ : m ∈ items.zipIdx) => each (path.item m.2) m.1)
    have all : (∀ m ∈ items.zipIdx, Conforms m.1 element) ↔ ∀ v ∈ items, Conforms v element := by
      conv => rhs; rw [← List.zipIdx_map_fst 0 items]
      simp only [List.forall_mem_map]
    have any := exists_mem_zipIdx items (Overflows · element)
    rw [all, any, false_or, Bounds.admits_iff] at walk
    exact walk.congr conforms_array_iff overflows_array_iff
  next other =>
    refine .reject (fun h => ?_) fun h => ?_
    · cases h with
      | array => exact other _ rfl
    · cases h with
      | array => exact other _ rfl

theorem decides_optional {inner : Field} {path : Path} {v : Json}
    (walk : (check path v inner).Decides (Conforms v inner) (Overflows v inner)) :
    (check path v (.optional label inner)).Decides (Conforms v (.optional label inner))
      (Overflows v (.optional label inner)) := by
  unfold check
  split
  next => exact .accept .null (not_overflows_null _)
  next other =>
    refine walk.congr ⟨fun h => ?_, .optional⟩ ⟨fun h => ?_, .optional⟩
    · cases h with
      | null => exact absurd rfl other
      | optional h => exact h
    · cases h with
      | optional h => exact h

/-- What a member's value does, or its absence, in front of what the other members do. -/
theorem decides_member {f : Field} {rest : List Field} {path : Path} {members : List (Text × Json)}
    (first : ∀ v, (check (path.member f.name) v f.memberField).Decides (Conforms v f.memberField)
      (Overflows v f.memberField))
    (others : (checkMembers path members rest).Decides (∀ g ∈ rest, MemberConforms members g)
      (∃ g ∈ rest, MemberOverflows members g)) :
    (checkMembers path members (f :: rest)).Decides (∀ g ∈ f :: rest, MemberConforms members g)
      (∃ g ∈ f :: rest, MemberOverflows members g) := by
  rw [checkMembers_cons]
  refine Walk.Decides.congr (.append (?_ : Walk.Decides _ (MemberConforms members f)
    (MemberOverflows members f)) others) (by simp) (by simp)
  cases hl : members.lookup (Text.ofString f.name) with
  | none =>
    have large : MemberOverflows members f ↔ False :=
      iff_false_intro fun ⟨v, hv, _⟩ => by simp [hl] at hv
    have fine : MemberConforms members f ↔ f.isOptional := by rw [MemberConforms, hl]
    dsimp only
    split
    next ho => exact Walk.Decides.clear.congr (fine.trans (iff_true_intro ho)) large
    next ho => exact (Walk.Decides.found _ _).congr (fine.trans (iff_false_intro ho)) large
  | some v =>
    have large : MemberOverflows members f ↔ Overflows v f.memberField := by
      simp [MemberOverflows, hl]
    have fine : MemberConforms members f ↔ Conforms v f.memberField := by
      rw [MemberConforms, hl]
    exact (first v).congr fine large

end Kinds

mutual

/-- The walk of a value along a field passes exactly if the value conforms, unless it overflows. -/
theorem check_decides (f : Field) (path : Path) (v : Json) :
    (check path v f).Decides (Conforms v f) (Overflows v f) := by
  cases f with
  | integer label b => exact decides_integer path v b
  | real label b => exact decides_real path v label b
  | string label b => exact decides_string path v b
  | boolean label => exact decides_boolean path v
  | constant label value =>
    rw [check]
    exact decides_constant path v label value
  | choice label options =>
    rw [check]
    exact decides_choice path v label options
  | template label p b =>
    unfold check
    split
    next s => exact (decides_template path s label p b).congr Iff.rfl (iff_false_intro nofun)
    next other =>
      refine .reject (fun h => ?_) nofun
      cases h with
      | template => exact other _ rfl
  | object label fields =>
    unfold check
    split
    next members =>
      have walk := (checkMembers_decides fields path members).append
        (decides_unexpected path members fields)
      rw [or_false] at walk
      exact walk.congr conforms_object_iff overflows_object_iff
    next other =>
      refine .reject (fun h => ?_) fun h => ?_
      · cases h with
        | object => exact other _ rfl
      · cases h with
        | object => exact other _ rfl
  | variant label alternatives =>
    unfold check
    split
    next members =>
      exact (checkAlternatives_decides alternatives path (.object members) _).congr
        conforms_variant_iff overflows_variant_iff
    next other =>
      refine .reject (fun h => ?_) fun h => ?_
      · cases h with
        | variant => exact other _ rfl
      · cases h with
        | variant => exact other _ rfl
  | array label element b => exact decides_array (check_decides element) path v b
  | optional label inner => exact decides_optional (check_decides inner path v)

theorem checkMembers_decides (fields : List Field) (path : Path) (members : List (Text × Json)) :
    (checkMembers path members fields).Decides (∀ f ∈ fields, MemberConforms members f)
      (∃ f ∈ fields, MemberOverflows members f) := by
  cases fields with
  | nil => exact Walk.Decides.clear.congr (by simp) (by simp)
  | cons f rest =>
    refine decides_member (fun v => ?_) (checkMembers_decides rest path members)
    cases f with
    | optional label inner => exact check_decides inner _ v
    | _ => exact check_decides _ _ v

theorem checkAlternatives_decides (fields : List Field) (path : Path) (v : Json)
    (names : List String) : (checkAlternatives path v names fields).Decides
      (∃ f ∈ fields, Conforms v f) (AnyOverflows v fields) := by
  cases fields with
  | nil =>
    rw [checkAlternatives]
    exact (Walk.Decides.found path _).congr (by simp) Iff.rfl
  | cons f rest =>
    rw [checkAlternatives]
    refine (decides_alternative (check_decides f path v)
      (checkAlternatives_decides rest path v names) ?_).congr (by simp) Iff.rfl
    exact ⟨rfl, rfl⟩

end

end FieldSchema.Validation
