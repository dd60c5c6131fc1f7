import FieldSchema.Grammar.DigitRange
import FieldSchema.Json.Problem
import FieldSchema.Text.Quoted

/-! Integer ranges between bounds of any kind, worked out within a limit on nested calls. A bound
counts by its value where bounds are compared, and by the way it is written where digits are. -/
namespace FieldSchema.Grammar

-- Powers are those of the core library, whatever else is imported.
attribute [local instance (high)] instPowNat

/-- A number and how it is written. -/
structure WrittenNumber where
  value : Numeric
  text : List Char

namespace WrittenNumber

def ofNumeric (x : Numeric) : WrittenNumber := ⟨x, x.display.toList⟩

def ofInt (n : Int) : WrittenNumber := ofNumeric n

def negate (x : WrittenNumber) : WrittenNumber := ofNumeric x.value.negate

/-- Of two equal numbers the first. -/
def max (x y : WrittenNumber) : WrittenNumber := if x.value.lt y.value then y else x

def min (x y : WrittenNumber) : WrittenNumber := if y.value.lt x.value then y else x

end WrittenNumber

/-- Why there is no range. -/
inductive RangeFault where
  /-- A text that is not a digit stands where one is needed. -/
  | noDigit (text : String)
  /-- An integer has too many digits to be written. -/
  | tooManyDigits
  /-- A digit is nested in more calls than there may be. -/
  | tooDeep
deriving DecidableEq

def digitOf (s : List Char) : Except RangeFault Nat :=
  match s with
  | [c] => if c.isDigit then .ok (c.toNat - '0'.toNat) else .error (.noDigit (String.ofList s))
  | _ => .error (.noDigit (String.ofList s))

/-- The numbers of as many digits as `low` has, between two texts that are read digit by digit. A
call is nested for each digit until the remaining ones are free. -/
def sameWidth : (calls : Nat) → (low high : List Char) → Except RangeFault (List Sequence)
  | 0, _, _ => .error .tooDeep
  | _ + 1, [], _ => .ok []
  | _ + 1, [c], high => do return [[digit (← digitOf [c]) (← digitOf high)]]
  | calls + 1, c :: d :: rest, high => do
    let restLow := d :: rest
    let restHigh := high.drop 1
    let zeros := List.replicate restLow.length '0'
    let nines := List.replicate restLow.length '9'
    let first ← digitOf [c]
    let last ← digitOf (high.take 1)
    let starting (n : Nat) (tails : List Sequence) := tails.map (digit n n :: ·)
    if first = last then return starting first (← sameWidth calls restLow restHigh)
    let below ← if restLow = zeros then pure [] else sameWidth calls restLow nines
    let above ← if restHigh = nines then pure [] else sameWidth calls zeros restHigh
    let fullFirst := if restLow = zeros then first else first + 1
    let fullLast := if restHigh = nines then last else last - 1
    let full := if fullFirst ≤ fullLast then
        [digit fullFirst fullLast :: List.replicate restLow.length anyDigit]
      else []
    return starting first below ++ full ++ starting last above

def writtenBand (calls : Nat) (low high : WrittenNumber) (width : Nat) :
    Except RangeFault (List Sequence) :=
  let least := low.max (.ofInt (if width = 1 then 0 else (10 : Int) ^ (width - 1)))
  let most := high.min (.ofInt ((10 : Int) ^ width - 1))
  if least.value.lt most.value || least.value.same most.value then
    sameWidth calls least.text most.text
  else .ok []

def WrittenNumber.width (x : WrittenNumber) : Except RangeFault Nat :=
  if Json.digitLimit < x.text.length then .error .tooManyDigits else .ok x.text.length

/-- The numbers between two bounds that are not negative, of each width from that of one text to
that of the other. -/
def writtenNaturals (calls : Nat) (low high : WrittenNumber) :
    Except RangeFault (List Sequence) := do
  let least ← low.width
  let most ← high.width
  let widths := (List.range (most + 1 - least)).map (least + ·)
  return (← widths.mapM (writtenBand calls low high)).flatten

def writtenRange (calls : Nat) (low high : WrittenNumber) : Except RangeFault Production := do
  let zero := WrittenNumber.ofInt 0
  let negatives ← if low.value.lt zero.value then
      writtenNaturals calls (high.min (.ofInt (-1))).negate low.negate
    else pure []
  let naturals ← if zero.value.lt high.value || zero.value.same high.value then
      writtenNaturals calls (low.max zero) high
    else pure []
  return negatives.map (minus :: ·) ++ naturals

end FieldSchema.Grammar
