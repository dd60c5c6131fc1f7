import FieldSchema.Proofs.Json.Legible
import FieldSchema.Proofs.Validation.Document

/-! What validation reports. Only one thing keeps it from a report: an integer beyond all doubles
that the walk carries to a field which compares with doubles. Nothing else can, not even the
messages, since no integer in them is too long to be written. -/
namespace FieldSchema

/-- Numbers are compared with doubles here. -/
def Field.ComparesDoubles : Field → Prop
  | .real _ _ | .constant _ (.real _) => True
  | .choice _ (.reals xs) => xs ≠ []
  | _ => False

namespace Field

/-- No numbers are compared with doubles anywhere in the tree. -/
def FreeOfDoubles (f : Field) : Prop := ∀ g ∈ f.preorder, ¬ g.ComparesDoubles

variable {f : Field}

theorem FreeOfDoubles.of_children (own : ¬ f.ComparesDoubles)
    (below : ∀ g ∈ f.children, g.FreeOfDoubles) : f.FreeOfDoubles := by
  rw [FreeOfDoubles, preorder_eq, List.forall_mem_cons, List.forall_mem_flatMap]
  exact ⟨own, below⟩

theorem FreeOfDoubles.leaf (own : ¬ f.ComparesDoubles) (alone : f.children = []) :
    f.FreeOfDoubles :=
  .of_children own (alone ▸ List.forall_mem_nil _)

end Field

namespace Validation

section Reach

/-- Which values meet which fields on a walk: a member that is there and known, every item, a value
other than null below an optional field, and the alternatives up to the first that conforms. -/
inductive Reaches : Json → Field → Json → Field → Prop where
  | here (v : Json) (f : Field) : Reaches v f v f
  | member {label : Label} {fields : List Field} {members : List (Text × Json)} {f g : Field}
    {v w : Json} : f ∈ fields → members.lookup (Text.ofString f.name) = some v →
    Reaches v f.memberField w g → Reaches (.object members) (.object label fields) w g
  | alternative {label : Label} {before after : List Field} {members : List (Text × Json)}
    {f g : Field} {w : Json} : (∀ h ∈ before, ¬ Conforms (.object members) h) →
    Reaches (.object members) f w g →
    Reaches (.object members) (.variant label (before ++ f :: after)) w g
  | item {label : Label} {element g : Field} {b : Bounds Nat} {items : List Json} {v w : Json} :
    v ∈ items → Reaches v element w g → Reaches (.array items) (.array label element b) w g
  | inner {label : Label} {f g : Field} {v w : Json} : v ≠ .null → Reaches v f w g →
    Reaches v (.optional label f) w g

variable {v w : Json} {f g : Field}

theorem Reaches.overflows (h : Reaches v f w g) (large : Overflows w g) : Overflows v f := by
  induction h with
  | here => exact large
  | member hf hv _ ih => exact .object hf hv (ih large)
  | alternative hb _ ih => exact .variant hb (ih large)
  | item hv _ ih => exact .array hv (ih large)
  | inner _ _ ih => exact .optional (ih large)

theorem overflows_of_comparesDoubles (h : g.ComparesDoubles) (large : TooLarge w) :
    Overflows w g := by
  cases g with
  | real => exact .real large
  | constant label value =>
    cases value with
    | real x => exact .constant large
    | int | text => exact h.elim
  | choice label options =>
    cases options with
    | reals xs => exact .choice large h
    | ints | texts => exact h.elim
  | _ => exact h.elim

/-- A walk overflows where it carries an integer that has no nearest double to a field which
compares with doubles, and only there. -/
theorem overflows_iff_reaches : Overflows v f ↔
    ∃ n g, Reaches v f (.int n) g ∧ g.ComparesDoubles ∧ 2 ^ 1024 - 2 ^ 970 ≤ n.natAbs := by
  constructor
  · intro h
    induction h with
    | real large =>
      obtain ⟨n, rfl, none⟩ := large
      exact ⟨n, _, .here _ _, trivial, ofInt?_eq_none_iff.1 none⟩
    | constant large =>
      obtain ⟨n, rfl, none⟩ := large
      exact ⟨n, _, .here _ _, trivial, ofInt?_eq_none_iff.1 none⟩
    | choice large some =>
      obtain ⟨n, rfl, none⟩ := large
      exact ⟨n, _, .here _ _, some, ofInt?_eq_none_iff.1 none⟩
    | object hf hv _ ih =>
      obtain ⟨n, g, reach, rest⟩ := ih
      exact ⟨n, g, .member hf hv reach, rest⟩
    | variant hb _ ih =>
      obtain ⟨n, g, reach, rest⟩ := ih
      exact ⟨n, g, .alternative hb reach, rest⟩
    | array hv _ ih =>
      obtain ⟨n, g, reach, rest⟩ := ih
      exact ⟨n, g, .item hv reach, rest⟩
    | @optional label v inner large ih =>
      obtain ⟨n, g, reach, rest⟩ := ih
      have filled : v ≠ .null := fun he => not_overflows_null inner (he ▸ large)
      exact ⟨n, g, .inner filled reach, rest⟩
  · intro ⟨n, g, reach, doubles, large⟩
    have none := ofInt?_eq_none_iff.2 large
    exact reach.overflows (overflows_of_comparesDoubles doubles ⟨n, rfl, none⟩)

theorem not_overflows_of_freeOfDoubles (h : f.FreeOfDoubles) : ¬ Overflows v f := by
  intro large
  have below := Field.closed_preorder fun g => ¬ g.ComparesDoubles
  induction large with
  | real | constant => exact h _ (Field.mem_preorder_self _) trivial
  | choice _ some => exact h _ (Field.mem_preorder_self _) some
  | object hf _ _ ih => exact ih (below.memberField (below _ h _ hf))
  | variant _ _ ih => exact ih (below _ h _ (by simp [Field.children]))
  | array _ _ ih | optional _ ih => exact ih (below _ h _ (by simp [Field.children]))

end Reach

section Messages

/-- The integers that a message repeats from the document or the schema. A length that was counted
is not one of them. -/
def Mismatch.integers : Mismatch → List Int
  | range value low high => [value, low, high].filterMap fun
    | .int n => some n
    | .real _ => none
  | stringLength _ lengths | arrayLength _ lengths | generatedLength _ lengths =>
    [lengths.low, lengths.high]
  | constant expected got => expected.toJson.integers ++ got.integers
  | choice got options => got.integers ++ options.scalars.flatMap (·.toJson.integers)
  | _ => []

/-- Every integer in the message is legible. -/
def Mismatch.Writable (m : Mismatch) : Prop := ∀ n ∈ m.integers, Legible n

namespace Walk

/-- Every integer in its messages is legible. -/
def Writable (w : Walk) : Prop := ∀ x ∈ w.violations, x.mismatch.Writable

theorem Writable.clear : Writable .clear := List.forall_mem_nil _

variable {a b : Walk} {path : Path} {m : Mismatch}

theorem Writable.found (h : m.Writable) : (Validation.found path m).Writable := by
  simpa [Writable, Validation.found] using h

theorem Writable.expect {ok : Bool} (h : m.Writable) :
    (Validation.expect ok path m).Writable := by
  cases ok with
  | true => exact .clear
  | false => exact .found h

theorem Writable.verdict {r : Option Bool} (h : m.Writable) :
    (Validation.verdict path m r).Writable := by
  cases r with
  | none => exact List.forall_mem_nil _
  | some ok => exact .expect h

theorem Writable.append (ha : a.Writable) (hb : b.Writable) : (a ++ b).Writable := by
  rw [append_def]
  split
  next => exact ha
  next => exact List.forall_mem_append.2 ⟨ha, hb⟩

theorem Writable.concat {walks : List Walk} (h : ∀ w ∈ walks, w.Writable) :
    (concat walks).Writable := by
  induction walks with
  | nil => exact .clear
  | cons w walks ih =>
    obtain ⟨hw, hwalks⟩ := List.forall_mem_cons.1 h
    exact hw.append (ih hwalks)

end Walk

theorem Mismatch.Writable.of_none {m : Mismatch} (h : m.integers = []) : m.Writable := by
  intro n hn
  rw [h] at hn
  exact absurd hn List.not_mem_nil

section Fields

variable {v : Json} {label : Label} {path : Path}

theorem writable_toJson {value : Scalar}
    (h : ∀ n ∈ (Field.constant label value).spelledIntegers, Legible n) :
    value.toJson.Writable := by
  cases value with
  | int n => simpa [Field.spelledIntegers, Scalar.toJson, Json.Writable, Json.integers] using h
  | real | text => exact fun _ hn => absurd hn List.not_mem_nil

theorem writable_scalars {options : Options}
    (h : ∀ n ∈ (Field.choice label options).spelledIntegers, Legible n) :
    ∀ n ∈ options.scalars.flatMap (·.toJson.integers), Legible n := by
  cases options with
  | ints values =>
    simpa [Field.spelledIntegers, Options.scalars, Scalar.toJson, Json.integers] using h
  | reals | texts => simp [Options.scalars, Scalar.toJson, Json.integers]

theorem writable_checkConstant {value : Scalar} (hv : v.Writable)
    (h : ∀ n ∈ (Field.constant label value).spelledIntegers, Legible n) :
    (checkConstant path v value).Writable := by
  have message : (Mismatch.constant value v).Writable :=
    List.forall_mem_append.2 ⟨writable_toJson h, hv⟩
  unfold checkConstant
  split
  · exact .expect message
  · exact .expect message
  · exact .verdict message
  · exact .verdict message
  · exact .found message

theorem writable_checkChoice {options : Options} (hv : v.Writable)
    (h : ∀ n ∈ (Field.choice label options).spelledIntegers, Legible n) :
    (checkChoice path v options).Writable := by
  have message : (Mismatch.choice v options).Writable :=
    List.forall_mem_append.2 ⟨hv, writable_scalars h⟩
  unfold checkChoice
  split
  · exact .expect message
  · exact .found (.of_none rfl)
  · exact .expect message
  · exact .found (.of_none rfl)
  · exact .verdict message
  · exact .verdict message
  · exact .found (.of_none rfl)

theorem writable_checkPattern {s : Text} {p : Pattern} {b : Bounds Nat}
    (h : ∀ n ∈ (Field.template label p b).spelledIntegers, Legible n) :
    (checkPattern path s p b).Writable := by
  unfold checkPattern
  dsimp only
  split
  · exact .found (.of_none rfl)
  · exact .expect h

theorem writable_checkUnexpected {members : List (Text × Json)} {fields : List Field} :
    (checkUnexpected path members fields).Writable := by
  refine .concat fun w hw => ?_
  obtain ⟨m, -, rfl⟩ := List.mem_map.1 hw
  exact .found (.of_none rfl)

mutual

/-- No message of a walk repeats an integer that is too long, where neither the document nor the
schema has one. -/
theorem writable_check (f : Field) (path : Path) (v : Json) (hf : f.Writable)
    (hv : v.Writable) : (check path v f).Writable := by
  have own := hf f (Field.mem_preorder_self f)
  have below := Field.closed_writable f hf
  cases f with
  | integer label b =>
    unfold check
    split
    next n =>
      refine .expect fun k hk => ?_
      rcases List.mem_cons.1 hk with rfl | hk
      · exact hv k (by simp [Json.integers])
      · exact own k hk
    next => exact .found (.of_none rfl)
  | real label b =>
    unfold check
    split
    next n hn =>
      refine .verdict fun k hk => ?_
      cases v with
      | int m =>
        obtain rfl := Option.some.inj hn
        obtain rfl := List.mem_singleton.1 hk
        exact hv k (by simp [Json.integers])
      | real x =>
        obtain rfl := Option.some.inj hn
        exact absurd hk List.not_mem_nil
      | _ => exact absurd hn nofun
    next => exact .found (.of_none rfl)
  | string label b =>
    unfold check
    split
    next => exact .expect own
    next => exact .found (.of_none rfl)
  | boolean label =>
    unfold check
    split
    next => exact .clear
    next => exact .found (.of_none rfl)
  | constant label value =>
    rw [check]
    exact writable_checkConstant hv own
  | choice label options =>
    rw [check]
    exact writable_checkChoice hv own
  | template label p b =>
    unfold check
    split
    next => exact writable_checkPattern own
    next => exact .found (.of_none rfl)
  | object label fields =>
    unfold check
    split
    next members =>
      exact .append (writable_checkMembers fields path members below (Json.writable_object.1 hv))
        writable_checkUnexpected
    next => exact .found (.of_none rfl)
  | variant label alternatives =>
    unfold check
    split
    next members =>
      exact writable_checkAlternatives alternatives path _ _ below hv
    next => exact .found (.of_none rfl)
  | array label element b =>
    unfold check
    split
    next items =>
      refine .append (.expect own) (.concat fun w hw => ?_)
      obtain ⟨⟨item, index⟩, hm, rfl⟩ := List.mem_map.1 hw
      have known : item ∈ items := List.fst_mem_of_mem_zipIdx hm
      exact writable_check element _ item (below element (by simp [Field.children]))
        (Json.writable_array.1 hv item known)
    next => exact .found (.of_none rfl)
  | optional label inner =>
    unfold check
    split
    next => exact .clear
    next => exact writable_check inner path v (below inner (by simp [Field.children])) hv

theorem writable_checkMembers (fields : List Field) (path : Path) (members : List (Text × Json))
    (hf : ∀ f ∈ fields, f.Writable) (hm : ∀ m ∈ members, m.2.Writable) :
    (checkMembers path members fields).Writable := by
  cases fields with
  | nil => exact .clear
  | cons f rest =>
    obtain ⟨first, others⟩ := List.forall_mem_cons.1 hf
    rw [checkMembers_cons]
    refine .append ?_ (writable_checkMembers rest path members others hm)
    cases hl : members.lookup (Text.ofString f.name) with
    | none =>
      dsimp only
      split
      · exact .clear
      · exact .found (.of_none rfl)
    | some v =>
      have hv : v.Writable := fun n hn =>
        Json.writable_object.2 hm n (Json.integers_of_lookup hl n hn)
      cases f with
      | optional label inner =>
        exact writable_check inner _ v (Field.closed_writable.memberField first) hv
      | _ => exact writable_check _ _ v first hv

theorem writable_checkAlternatives (fields : List Field) (path : Path) (v : Json)
    (names : List String) (hf : ∀ f ∈ fields, f.Writable) (hv : v.Writable) :
    (checkAlternatives path v names fields).Writable := by
  cases fields with
  | nil => exact .found (.of_none rfl)
  | cons f rest =>
    obtain ⟨first, others⟩ := List.forall_mem_cons.1 hf
    rw [checkAlternatives]
    split
    · exact writable_check f path v first hv
    · exact .append (List.forall_mem_nil _)
        (writable_checkAlternatives rest path v names others hv)

end

end Fields

theorem Reaches.writable {v w : Json} {f g : Field} (h : Reaches v f w g) (hf : f.Writable)
    (hv : v.Writable) : g.Writable ∧ w.Writable := by
  induction h with
  | here => exact ⟨hf, hv⟩
  | member hmem hl _ ih =>
    exact ih (Field.closed_writable.memberField (Field.closed_writable _ hf _ hmem))
      fun n hn => hv n (Json.integers_of_lookup hl n hn)
  | alternative _ _ ih => exact ih (Field.closed_writable _ hf _ (by simp [Field.children])) hv
  | item hmem _ ih =>
    exact ih (Field.closed_writable _ hf _ (by simp [Field.children]))
      (Json.writable_array.1 hv _ hmem)
  | inner _ _ ih => exact ih (Field.closed_writable _ hf _ (by simp [Field.children])) hv

end Messages

section Reports

variable {f : Field} {text : Option (List Char)}

theorem Verdict.valid_report {root : String} {v : Verdict} {r : Report}
    (h : v.report root = .ok r) : r.valid = true ↔ r.messages = [] := by
  obtain ⟨findings, events⟩ := v
  cases findings with
  | error e => exact absurd h nofun
  | ok findings =>
    rw [← Except.ok.inj h, List.isEmpty_iff, List.map_eq_nil_iff]

theorem Verdict.report_eq_error_iff {root : String} {v : Verdict} {e : Failure} :
    v.report root = .error e ↔ v.findings = .error e := by
  obtain ⟨findings, events⟩ := v
  cases findings with
  | error e' => simp [report, Except.map]
  | ok findings => exact iff_of_false nofun nofun

/-- What is wrong with a text that spells no value is told after the name of the root. -/
theorem report_unread {e : Json.ReadError} (h : Json.read (text.getD []) = .error e) :
    ∃ fault : String, (validate (.field f) text).report f.name =
      .ok ⟨false, [Text.ofString (f.name ++ ": " ++ fault)]⟩ := by
  unfold validate
  dsimp only
  split
  next =>
    have message : f.name ++ ": " ++ "JSON text is empty" = f.name ++ ": JSON text is empty" :=
      String.append_assoc
    exact ⟨"JSON text is empty", by rw [message]; rfl⟩
  next =>
    rw [h]
    exact ⟨unreadableText (text.getD []) e, rfl⟩

theorem report_blank (h : (text.getD []).all Blank.isBlank) : ∃ fault : String,
    (validate (.field f) text).report f.name =
      .ok ⟨false, [Text.ofString (f.name ++ ": " ++ fault)]⟩ := by
  cases hr : Json.read (text.getD []) with
  | ok v => exact absurd hr (read_blank h v)
  | error e => exact report_unread hr

/-- Validation reports on every document, and the report is valid exactly if it says nothing, unless
the walk carries an integer from the middle after the largest double on to a field that compares
with doubles. No integer in a message is too long to be written. -/
theorem report_validate (f : Field) (text : Option (List Char)) (hf : f.Writable) :
    let answer := (validate (.field f) text).report f.name
    (∀ e, answer = .error e ↔ e = .integerTooLarge ∧ ∃ v, Json.read (text.getD []) = .ok v ∧
      ∃ n g, Reaches v f (.int n) g ∧ g.ComparesDoubles ∧ 2 ^ 1024 - 2 ^ 970 ≤ n.natAbs) ∧
    (∀ r, answer = .ok r → (r.valid = true ↔ r.messages = [])) ∧
    ((text.getD []).all Blank.isBlank ∨ (∃ e, Json.read (text.getD []) = .error e) →
      ∃ fault : String, answer = .ok ⟨false, [Text.ofString (f.name ++ ": " ++ fault)]⟩) ∧
    ∀ v, Json.read (text.getD []) = .ok v → ∀ w g, Reaches v f w g → ∀ path,
      ∀ x ∈ (check path w g).violations, ∀ n ∈ x.mismatch.integers, Legible n := by
  refine ⟨fun e => ?_, fun r => Verdict.valid_report, fun h => ?_, fun v hv w g reach path => ?_⟩
  · rw [Verdict.report_eq_error_iff]
    cases hr : Json.read (text.getD []) with
    | ok v =>
      obtain ⟨-, overflow, only⟩ := findings_checkRoot f v
      rw [validate_of_read hr]
      constructor
      · intro he
        exact ⟨only e he, v, rfl, overflows_iff_reaches.1 (overflow.1 (only e he ▸ he))⟩
      · rintro ⟨rfl, v', hv', reach⟩
        obtain rfl := Except.ok.inj hv'
        exact overflow.2 (overflows_iff_reaches.2 reach)
    | error fault =>
      obtain ⟨finding, hf⟩ := @validate_of_unread f _ _ hr
      rw [hf]
      exact iff_of_false nofun fun ⟨_, v, hv, _⟩ => absurd hv nofun
  · rcases h with blank | ⟨e, unread⟩
    · exact report_blank blank
    · exact report_unread unread
  · obtain ⟨hg, hw⟩ := reach.writable hf (Json.writable_of_read hv)
    exact writable_check g path w hg hw

/-- A count that no double is as large as keeps the first alternative from being compared. -/
theorem report_shareOrCount : shareOrCount.Writable ∧
    (validate (.field shareOrCount) (some largeDocument)).report shareOrCount.name =
      .error .integerTooLarge := by
  have writable : shareOrCount.Writable := by
    unfold Field.Writable
    decide +kernel
  refine ⟨writable, ((report_validate shareOrCount (some largeDocument) writable).1 _).2 ⟨rfl, ?_⟩⟩
  refine ⟨_, read_largeDocument, beyondDoubles,
    .real countLabel ⟨.zero false, .zero false, by decide⟩, ?_, trivial, by decide +kernel⟩
  refine .alternative (List.forall_mem_nil _) ?_
  exact .member (List.mem_singleton_self _) rfl (.here _ _)

end Reports

end Validation
end FieldSchema
