import FieldSchema.Grammar.Compile
import FieldSchema.Grammar.WrittenRange
import FieldSchema.Schema.Limits

/-! Compilation within limits. What can go wrong is met in the order of the walk: a call too many on
the way down to a field, and all else at the field itself, after the fields below it. -/
namespace FieldSchema.Grammar

/-- Why there is no grammar. -/
inductive Failure where
  | refused (e : GrammarError)
  | range (fault : RangeFault)
  | tooDeep
  | tooLong

def Failure.ofRange : RangeFault → Failure
  | .tooDeep => tooDeep
  | fault => range fault

def descend (calls limit : Nat) : Except Failure Nat :=
  if calls ≤ limit then .ok (limit - calls) else .error .tooDeep

/-- How many calls of the compilation a field nests itself, down to the first ones for the fields
below it or for the digits of a number. An optional member of an object is passed over for the field
inside it. -/
def ownCalls (member : Bool) : Field → Nat
  | .object .. => 4
  | .variant .. | .array .. => 2
  | .optional .. => if member then 0 else 1
  | .boolean .. | .constant .. | .string .. | .template .. => 3
  | .choice .. => 4
  | .integer .. => 5
  | .real .. => 6

/-- How often items are repeated for a field. -/
def copies : Field → List Nat
  | .string _ b | .template _ _ b => [b.low, b.high - b.low]
  | .array _ _ b =>
    if b.high = 0 then [] else if b.low = 0 then [b.high - 1] else [b.low, b.high - b.low]
  | _ => []

def checkCopies (limits : Limits) (counts : List Nat) : Except Failure Unit :=
  if counts.all (· ≤ limits.items) then .ok () else .error .tooLong

def checkRange (calls : Nat) (low high : Int) : Except Failure Unit :=
  match writtenRange calls (.ofInt low) (.ofInt high) with
  | .ok _ => .ok ()
  | .error fault => .error (.ofRange fault)

def refuse {α : Type} (x : Except GrammarError α) : Except Failure Unit :=
  match x with
  | .ok _ => .ok ()
  | .error e => .error (.refused e)

def checkOwn (limits : Limits) (calls : Nat) : Field → Except Failure Unit
  | .integer _ b => do
    refuse (checkBounds b)
    checkRange calls b.low b.high
  | .real _ b =>
    checkRange calls 0 (max b.low.magnitude b.high.magnitude / Finite64.unitsPerOne : Nat)
  | .constant _ value => refuse (scalarLiteral value)
  | .choice _ options => refuse (options.scalars.mapM scalarLiteral)
  | f => checkCopies limits (copies f)

mutual

def checkField (limits : Limits) (member : Bool) (calls : Nat) (f : Field) :
    Except Failure Unit := do
  let left ← descend (ownCalls member f) calls
  match f with
  | .object _ members => checkAll limits true left members
  | .variant _ alternatives => checkAll limits false left alternatives
  | .array _ element _ => checkField limits false left element
  | .optional _ inner => checkField limits false left inner
  | _ => .ok ()
  checkOwn limits left f

def checkAll (limits : Limits) (member : Bool) (calls : Nat) : List Field → Except Failure Unit
  | [] => .ok ()
  | f :: rest => do
    checkField limits member calls f
    checkAll limits member calls rest

end

/-- An item at least `low` and at most `high` times, if it may be repeated as often. -/
def betweenWithin (limits : Limits) (i : Item) (low high : Int) : Except Failure Sequence := do
  checkCopies limits [low.toNat, (high - low).toNat]
  return between i low high

/-- The decimals between two numbers, within a limit on nested calls. -/
def decimalsWithin (calls : Nat) (low high : Numeric) :
    Except (NoWholePart ⊕ Failure) Production :=
  match wholePart (if low.abs.lt high.abs then high.abs else low.abs) with
  | .error e => .error (.inl e)
  | .ok magnitude =>
    match checkRange calls 0 magnitude with
    | .error e => .error (.inr e)
    | .ok _ => .ok (decimals (signItems low high) magnitude.toNat)

end FieldSchema.Grammar

namespace FieldSchema

open Grammar in
/-- The grammar of a field, if it can be compiled within the limits. -/
def Field.grammarWithin (limits : Limits) (f : Field) : Except Failure Compiled := do
  checkField limits false limits.calls f
  match f.grammar with
  | .ok g => .ok g
  | .error e => .error (.refused e)

end FieldSchema
