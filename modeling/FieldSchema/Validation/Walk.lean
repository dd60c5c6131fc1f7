import FieldSchema.Number.Tolerance
import FieldSchema.Validation.Mismatch

/-! Checking a value against a field. The walk goes on after a mismatch and collects all of them in
document order; only an integer too large for the comparison with a double ends it. -/
namespace FieldSchema.Validation

/-- A rejected alternative of a variant, with the number of its mismatches. -/
structure Rejection where
  path : Path
  name : String
  count : Nat

/-- What a walk has met so far. After an overflow nothing is added. -/
structure Walk where
  violations : List Violation
  rejections : List Rejection
  overflowed : Bool

namespace Walk

def clear : Walk := ⟨[], [], false⟩

def overflow : Walk := ⟨[], [], true⟩

def append (a b : Walk) : Walk :=
  if a.overflowed then a
  else ⟨a.violations ++ b.violations, a.rejections ++ b.rejections, b.overflowed⟩

instance : Append Walk := ⟨append⟩

@[simp] theorem violations_clear : clear.violations = [] := rfl
@[simp] theorem overflowed_clear : clear.overflowed = false := rfl

@[simp] theorem clear_append (w : Walk) : clear ++ w = w := rfl

theorem append_def (a b : Walk) : a ++ b =
    if a.overflowed then a
    else ⟨a.violations ++ b.violations, a.rejections ++ b.rejections, b.overflowed⟩ := rfl

@[simp] theorem append_clear (w : Walk) : w ++ clear = w := by
  obtain ⟨v, r, o⟩ := w
  cases o <;> simp [append_def, clear]

theorem append_assoc (a b c : Walk) : a ++ b ++ c = a ++ (b ++ c) := by
  obtain ⟨v, r, o⟩ := a
  obtain ⟨v', r', o'⟩ := b
  cases o <;> cases o' <;> simp [append_def]

def concat (walks : List Walk) : Walk := walks.foldr (· ++ ·) clear

end Walk

def found (path : Path) (m : Mismatch) : Walk := ⟨[⟨path, m⟩], [], false⟩

def expect (ok : Bool) (path : Path) (m : Mismatch) : Walk := if ok then .clear else found path m

/-- Whether a number is finite and lies within the bounds; `none` if it is too large to say. -/
def withinReal? (b : Bounds Finite64) : Numeric → Option Bool
  | .int n => (Binary64.ofInt? n).map fun _ => !Numeric.lt n b.low && !Numeric.lt b.high n
  | .real (.finite x) => some (b.low ≤ x && x ≤ b.high)
  | .real _ => some false

/-- Whether a number counts as equal to a double; `none` if it is too large to say. -/
def closeTo? (expected : Finite64) : Numeric → Option Bool
  | .int n => (Binary64.ofInt? n).map (·.isClose expected)
  | .real (.finite x) => some (x.isClose expected)
  | .real _ => some false

/-- A check whose test may be undecided for want of size. -/
def verdict (path : Path) (m : Mismatch) : Option Bool → Walk
  | some ok => expect ok path m
  | none => .overflow

/-- Whether any of the doubles counts as equal; undecided if the number is too large. -/
def closeToAny? (n : Numeric) : List Finite64 → Option Bool
  | [] => some false
  | x :: rest =>
    match closeTo? x n with
    | some true => some true
    | some false => closeToAny? n rest
    | none => none

def checkConstant (path : Path) (v : Json) (expected : Scalar) : Walk :=
  let m := Mismatch.constant expected v
  match expected, v with
  | .text s, .string t => expect (t = Text.ofString s) path m
  | .int n, .int k => expect (k = n) path m
  | .real x, .int n => verdict path m (closeTo? x n)
  | .real x, .real y => verdict path m (closeTo? x y)
  | _, _ => found path m

def checkChoice (path : Path) (v : Json) (options : Options) : Walk :=
  let m := Mismatch.choice v options
  match options, v with
  | .texts values, .string t => expect (values.any fun s => t = Text.ofString s) path m
  | .texts _, _ => found path (.choiceType "string" v.typeName)
  | .ints values, .int n => expect (values.contains n) path m
  | .ints _, _ => found path (.choiceType "integer" v.typeName)
  | .reals values, .int n => verdict path m (closeToAny? n values)
  | .reals values, .real x => verdict path m (closeToAny? x values)
  | .reals _, _ => found path (.choiceType "number" v.typeName)

def checkPattern (path : Path) (s : Text) (p : Pattern) (lengths : Bounds Nat) : Walk :=
  let before := Text.ofString p.before
  let after := Text.ofString p.after
  if s.length < before.length + after.length || !before.isPrefixOf s || !after.isSuffixOf s then
    found path (.pattern p)
  else
    let generated := s.length - before.length - after.length
    expect (lengths.admits generated) path (.generatedLength generated lengths)

/-- The members of a document that no field is named after. -/
def checkUnexpected (path : Path) (members : List (Text × Json)) (fields : List Field) : Walk :=
  .concat ((members.filter fun (key, _) => fields.all (Text.ofString ·.name ≠ key)).map
    fun (key, _) => found (path.member key) .unexpected)

mutual

def check (path : Path) (v : Json) : Field → Walk
  | .integer _ b =>
    match v with
    | .int n => expect (b.low ≤ n && n ≤ b.high) path (.range n b.low b.high)
    | _ => found path (.typeName "integer" v.typeName)
  | .real _ b =>
    match v.numeric? with
    | some n => verdict path (.range n b.low b.high) (withinReal? b n)
    | none => found path (.typeName "number" v.typeName)
  | .string _ lengths =>
    match v with
    | .string s => expect (lengths.admits s.length) path (.stringLength s.length lengths)
    | _ => found path (.typeName "string" v.typeName)
  | .boolean _ =>
    match v with
    | .bool _ => .clear
    | _ => found path (.typeName "boolean" v.typeName)
  | .constant _ expected => checkConstant path v expected
  | .choice _ options => checkChoice path v options
  | .template _ p lengths =>
    match v with
    | .string s => checkPattern path s p lengths
    | _ => found path (.typeName "string" v.typeName)
  | .object _ fields =>
    match v with
    | .object members => checkMembers path members fields ++ checkUnexpected path members fields
    | _ => found path (.typeName "object" v.typeName)
  | .variant _ alternatives =>
    match v with
    | .object _ => checkAlternatives path v (alternatives.map Field.name) alternatives
    | _ => found path (.variantType v.typeName)
  | .array _ element lengths =>
    match v with
    | .array items =>
      expect (lengths.admits items.length) path (.arrayLength items.length lengths) ++
        .concat (items.zipIdx.map fun (item, index) => check (path.item index) item element)
    | _ => found path (.typeName "array" v.typeName)
  | .optional _ inner =>
    match v with
    | .null => .clear
    | _ => check path v inner

/-- A member whose field is optional is checked against the inner field. -/
def checkMembers (path : Path) (members : List (Text × Json)) : List Field → Walk
  | [] => .clear
  | .optional label inner :: rest =>
    (match members.lookup (Text.ofString label.name) with
      | some v => check (path.member label.name) v inner
      | none => .clear) ++ checkMembers path members rest
  | f :: rest =>
    (match members.lookup (Text.ofString f.name) with
      | some v => check (path.member f.name) v f
      | none => found (path.member f.name) .missing) ++ checkMembers path members rest

/-- The first alternative without a mismatch is taken. -/
def checkAlternatives (path : Path) (v : Json) (names : List String) : List Field → Walk
  | [] => found path (.noAlternative names)
  | f :: rest =>
    let walk := check path v f
    if walk.overflowed || walk.violations.isEmpty then walk
    else
      ⟨[], walk.rejections ++ [⟨path, f.name, walk.violations.length⟩], false⟩ ++
        checkAlternatives path v names rest

end

end FieldSchema.Validation
