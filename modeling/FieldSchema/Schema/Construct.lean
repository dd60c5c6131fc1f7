import FieldSchema.Schema.Error

/-! Building fields from untyped values. Every check runs in a fixed order and the first that fails
gives the error: first the label, then the data of the kind. -/
namespace FieldSchema

def Label.make (name hint : Datum) : Except SchemaError Label :=
  match name with
  | .text s =>
    if named : s ≠ "" then
      if clean : isClean s then
        match hint with
        | .null => .ok ⟨s, none, named, clean⟩
        | .text h => .ok ⟨s, some h, named, clean⟩
        | _ => .error (.hintNotText s)
      else .error (.nameWithControl s)
    else .error (.nameNotText name)
  | _ => .error (.nameNotText name)

/-- A finite double from a number; `none` stands for a number that is not finite. -/
def Numeric.toFinite? : Numeric → Except SchemaError (Option Finite64)
  | .int n =>
    match Binary64.ofInt? n with
    | some x => .ok (some x)
    | none => .error .integerTooLarge
  | .real (.finite x) => .ok (some x)
  | .real _ => .ok none

namespace Datum

def numeric? : Datum → Option Numeric
  | int n => some n
  | real x => some x
  | _ => none

def ints? : List Datum → Option (List Int)
  | [] => some []
  | int n :: rest => (ints? rest).map (n :: ·)
  | _ => none

def reals? : List Datum → Option (List Binary64)
  | [] => some []
  | real x :: rest => (reals? rest).map (x :: ·)
  | _ => none

def texts? : List Datum → Option (List String)
  | [] => some []
  | text s :: rest => (texts? rest).map (s :: ·)
  | _ => none

/-- Several arguments may be given as a single list. -/
def spread : List Datum → List Datum
  | [list items] => items
  | items => items

end Datum

def Binary64.finites? : List Binary64 → Option (List Finite64)
  | [] => some []
  | .finite x :: rest => (finites? rest).map (x :: ·)
  | _ => none

def Pattern.ofText (text : String)
    (once : Search.occurrences generatedMark.toList text.toList = 1) (clean : isClean text) :
    Pattern :=
  match h : Search.splitAt? generatedMark.toList text.toList with
  | some (before, after) =>
    have same : String.ofList before ++ generatedMark ++ String.ofList after = text := by
      rw [← String.toList_inj]
      simp [Search.eq_append_of_splitAt? h]
    ⟨.ofList before, .ofList after, by rw [same]; exact once, by rw [same]; exact clean⟩
  | none =>
    have found := Search.isSome_splitAt? (Nat.lt_of_lt_of_eq Nat.one_pos once.symm)
    absurd found (by rw [h]; nofun)

namespace Construct

def lengths (kind : Kind) (name : String) (low high : Datum) : Except SchemaError (Bounds Nat) :=
  match low, high with
  | .int low, .int high =>
    if low < 0 then .error (.lengthNegative kind name)
    else if ordered : low ≤ high then .ok ⟨low.toNat, high.toNat, by omega⟩
    else .error (.lengthsReversed kind name low high)
  | _, _ => .error (.lengthsNotIntegers kind name)

def integer (name hint low high : Datum) : Except SchemaError Field := do
  let label ← Label.make name hint
  match low, high with
  | .int low, .int high =>
    if ordered : low ≤ high then return .integer label ⟨low, high, ordered⟩
    else throw (.boundsReversed .integer label.name low high)
  | _, _ => throw (.boundsNotIntegers label.name)

def real (name hint low high : Datum) : Except SchemaError Field := do
  let label ← Label.make name hint
  match low.numeric?, high.numeric? with
  | some low, some high =>
    let some x ← low.toFinite? | throw (.boundsNotFinite label.name)
    let some y ← high.toFinite? | throw (.boundsNotFinite label.name)
    if high.lt low then throw (.boundsReversed .real label.name low high)
    if ordered : x ≤ y then return .real label ⟨x, y, ordered⟩
    else throw (.boundsReversed .real label.name low high)
  | _, _ => throw (.boundsNotNumbers label.name)

def string (name hint low high : Datum) : Except SchemaError Field := do
  let label ← Label.make name hint
  return .string label (← lengths .string label.name low high)

def constant (name hint value : Datum) : Except SchemaError Field := do
  let label ← Label.make name hint
  match value with
  | .int n => return .constant label (.int n)
  | .real (.finite x) => return .constant label (.real x)
  | .real _ => throw (.constantNotFinite label.name)
  | .text s => return .constant label (.text s)
  | _ => throw (.constantOfType label.name value.typeName)

def boolean (name hint : Datum) : Except SchemaError Field := do
  return .boolean (← Label.make name hint)

/-- The options of a choice that are all of one type and finite. -/
def sortedOptions (name : String) (values : List Datum) : Except SchemaError Options :=
  match Datum.ints? values, Datum.reals? values, Datum.texts? values with
  | some ns, _, _ => .ok (.ints ns)
  | _, some xs, _ =>
    match Binary64.finites? xs with
    | some xs => .ok (.reals xs)
    | none => .error (.optionsNotFinite name)
  | _, _, some ss => .ok (.texts ss)
  | _, _, _ => .error (.mixedOptions name)

def options (name : String) (values : List Datum) : Except SchemaError Options := do
  if values.isEmpty then throw (.noOptions name)
  let options ← sortedOptions name values
  if options.Valid then return options else throw (.repeatedOption name)

def choice (name hint : Datum) (values : List Datum) : Except SchemaError Field := do
  let label ← Label.make name hint
  return .choice label (← options label.name (Datum.spread values))

/-- The members of an object: all fields, and no name twice. -/
def members (name : String) (seen : List String) : List Datum → Except SchemaError (List Field)
  | [] => return []
  | .field f :: rest =>
    if f.name ∈ seen then throw (.repeatedMember name f.name)
    else return f :: (← members name (f.name :: seen) rest)
  | d :: _ => throw (.memberNotField name d)

def object (name hint : Datum) (values : List Datum) : Except SchemaError Field := do
  let label ← Label.make name hint
  return .object label (← members label.name [] (Datum.spread values))

def alternatives (name : String) : List Datum → Except SchemaError (List Field)
  | [] => return []
  | d :: rest =>
    match d with
    | .field f@(.object _ _) => return f :: (← alternatives name rest)
    | _ => throw (.alternativeOfType name d.typeName)

def variant (name hint : Datum) (values : List Datum) : Except SchemaError Field := do
  let label ← Label.make name hint
  match Datum.spread values with
  | [] => throw (.noAlternatives label.name)
  | values => return .variant label (← alternatives label.name values)

def array (name hint element low high : Datum) : Except SchemaError Field := do
  let label ← Label.make name hint
  match element with
  | .field element => return .array label element (← lengths .array label.name low high)
  | _ => throw (.elementNotField label.name)

def optional (name hint inner : Datum) : Except SchemaError Field := do
  let label ← Label.make name hint
  match inner with
  | .field inner => return .optional label inner
  | _ => throw (.innerNotField label.name)

def pattern (name : String) : Datum → Except SchemaError Pattern
  | .text s =>
    let count := Search.occurrences generatedMark.toList s.toList
    if once : count = 1 then
      if clean : isClean s then .ok (.ofText s once clean)
      else .error (.patternWithControl name)
    else .error (.marksInPattern name count)
  | _ => .error (.patternNotText name)

def template (name hint text low high : Datum) : Except SchemaError Field := do
  let label ← Label.make name hint
  let pattern ← pattern label.name text
  return .template label pattern (← lengths .template label.name low high)

end Construct
end FieldSchema
