import FieldSchema.Number.Binary64

/-! The decimal text of a double: the fewest digits that read back as the same double, and of those
the nearest to its value. -/
namespace FieldSchema

-- Powers are those of the core library, whatever else is imported.
attribute [local instance (high)] instPowNat

/-- The number `digits * 10 ^ exponent`. -/
structure Decimal where
  digits : Nat
  exponent : Int
deriving DecidableEq

namespace Decimal

def toBinary64 (d : Decimal) (negative : Bool) : Binary64 :=
  .ofDecimal negative d.digits d.exponent

/-- The digits without zeros at the end, and the power of ten of the first of them. -/
def significant (d : Decimal) : List Char × Int :=
  let digits := Nat.toDigits 10 d.digits
  ((digits.reverse.dropWhile (· == '0')).reverse, d.exponent + digits.length - 1)

end Decimal

namespace Finite64

/-- The power of ten of the first digit of a nonzero number of units. -/
def leadingExponent (units : Nat) : Int :=
  (Nat.toDigits 10 (units * 10 ^ (330 : Nat) / unitsPerOne)).length - 331

/-- The decimals of `count` digits on either side of `x`, if they read back as `x`: the nearer one,
and of two equally near the even one. -/
def withDigits? (x : Finite64) (count : Nat) : Option Decimal :=
  let exponent := leadingExponent x.magnitude - count + 1
  let num := x.magnitude * 10 ^ (-exponent).toNat
  let den := unitsPerOne * 10 ^ exponent.toNat
  let low : Decimal := ⟨num / den, exponent⟩
  let high : Decimal := ⟨num / den + 1, exponent⟩
  let rest := num % den
  let preferLow := 2 * rest < den || (2 * rest == den && low.digits % 2 == 0)
  let order := if preferLow then [low, high] else [high, low]
  order.find? fun d => d.toBinary64 x.negative = .finite x

/-- All the digits of a double: `2 ^ -1074` is `5 ^ 1074` over `10 ^ 1074`. -/
def exactDecimal (x : Finite64) : Decimal := ⟨x.magnitude * 5 ^ (1074 : Nat), -1074⟩

def shortest (x : Finite64) : Decimal :=
  if x.magnitude = 0 then ⟨0, 0⟩
  else ((List.range 17).findSome? fun n => x.withDigits? (n + 1)).getD x.exactDecimal

/-- Positional between `0.0001` and `10 ^ 16`, always with a point; outside, one digit before the
point and an exponent of at least two digits. -/
def layout (digits : List Char) (exponent : Int) : List Char :=
  if digits = [] then ['0', '.', '0']
  else if -4 ≤ exponent ∧ exponent < 16 then
    if exponent < 0 then '0' :: '.' :: List.replicate (-exponent - 1).toNat '0' ++ digits
    else
      let whole := exponent.toNat + 1
      let fraction := digits.drop whole
      digits.take whole ++ List.replicate (whole - digits.length) '0' ++
        '.' :: if fraction = [] then ['0'] else fraction
  else
    let power := Nat.toDigits 10 exponent.natAbs
    digits.take 1 ++ (if digits.length = 1 then [] else '.' :: digits.drop 1) ++
      'e' :: (if exponent < 0 then '-' else '+') ::
      (List.replicate (2 - power.length) '0' ++ power)

def text (x : Finite64) : List Char :=
  let (digits, exponent) := x.shortest.significant
  (if x.negative then ['-'] else []) ++ layout digits exponent

def display (x : Finite64) : String := String.ofList x.text

end Finite64

namespace Binary64

def display : Binary64 → String
  | finite x => x.display
  | infinite false => "inf"
  | infinite true => "-inf"
  | nan => "nan"

end Binary64
end FieldSchema
