import FieldSchema.Grammar.Production
import FieldSchema.Schema.Field

/-! Digit patterns of number ranges. The integers of a range are split by their number of digits,
and those of one length by leading digits, until the remaining digits are free. -/
namespace FieldSchema.Grammar

-- Powers are those of the core library, whatever else is imported.
attribute [local instance (high)] instPowNat

/-- One digit between two; a digit alone is a literal. -/
def digit (low high : Nat) : Item := if low = high then .text (toString low) else .digits low high

def anyDigit : Item := digit 0 9

/-- Sequences of `width` digits for the numbers from `low` to `high`, with zeros in front. -/
def fixedWidth (low high : Nat) : (width : Nat) → List Sequence
  | 0 => []
  | 1 => [[digit low high]]
  | width + 1 =>
    let unit := 10 ^ width
    let first := low / unit
    let last := high / unit
    let restLow := low % unit
    let restHigh := high % unit
    let most := unit - 1
    if first = last then (fixedWidth restLow restHigh width).map (digit first first :: ·)
    else
      let fullFirst := if restLow = 0 then first else first + 1
      let fullLast := if restHigh = most then last else last - 1
      (if restLow = 0 then [] else (fixedWidth restLow most width).map (digit first first :: ·)) ++
      (if fullFirst ≤ fullLast then [digit fullFirst fullLast :: List.replicate width anyDigit]
        else []) ++
      (if restHigh = most then [] else (fixedWidth 0 restHigh width).map (digit last last :: ·))

def band (low high width : Nat) : List Sequence :=
  let least := max low (if width = 1 then 0 else 10 ^ (width - 1))
  let most := min high (10 ^ width - 1)
  if least ≤ most then fixedWidth least most width else []

def digitCount (n : Nat) : Nat := (Nat.toDigits 10 n).length

/-- The numbers from `low` to `high`, without zeros in front. -/
def naturalRange (low high : Nat) : List Sequence :=
  (List.range (digitCount high + 1 - digitCount low)).flatMap fun n =>
    band low high (digitCount low + n)

def minus : Item := .text "-"

def integerRange (low high : Int) : Production :=
  (if low < 0 then
    (naturalRange (-(min high (-1))).toNat (-low).toNat).map (minus :: ·) else []) ++
  (if 0 ≤ high then naturalRange (max low 0).toNat high.toNat else [])

def fractionDigits : Nat := 6

/-- The sign of a number between two bounds: always there, never there, or free. -/
def signItems (low high : Numeric) : Sequence :=
  if high.lt (0 : Int) then [minus]
  else if low.lt (0 : Int) then [.optional [[minus]]]
  else []

/-- Decimals with a fraction, their whole part between zero and `magnitude`. -/
def decimals (sign : Sequence) (magnitude : Nat) : Production :=
  let whole :=
    match integerRange 0 magnitude with
    | [s] => s
    | alternatives => [.group alternatives]
  [sign ++ whole ++ .text "." :: between anyDigit 1 fractionDigits]

inductive NoWholePart where
  | infinite
  | nan

def NoWholePart.message : NoWholePart → String
  | infinite => "cannot convert float infinity to integer"
  | nan => "cannot convert float NaN to integer"

def wholePart : Numeric → Except NoWholePart Int
  | .int n => .ok n
  | .real (.finite x) => .ok x.truncate
  | .real (.infinite _) => .error .infinite
  | .real .nan => .error .nan

/-- The decimals for any two numbers, also those that are no bounds of a field. The second one
decides the magnitude only if it is the larger. -/
def decimalsBetween (low high : Numeric) : Except NoWholePart Production := do
  let magnitude ← wholePart (if low.abs.lt high.abs then high.abs else low.abs)
  return decimals (signItems low high) magnitude.toNat

/-- The decimals whose sign and whole part fit between two bounds. -/
def decimalRange (b : Bounds Finite64) : Production :=
  decimals (signItems b.low b.high) (max b.low.magnitude b.high.magnitude / Finite64.unitsPerOne)

end FieldSchema.Grammar
