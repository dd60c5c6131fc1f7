/-! Double-precision numbers by their exact values. The finite magnitudes are numbered in increasing
order, and each is a whole number of units of `2 ^ -1074`; comparing, converting and rounding are
therefore integer arithmetic. -/
namespace FieldSchema

-- Powers are those of the core library, whatever else is imported.
attribute [local instance (high)] instPowNat

/-- A finite double: its sign, and the position of its magnitude in increasing order. -/
structure Finite64 where
  negative : Bool
  position : Fin (2047 * 2 ^ (52 : Nat))
deriving DecidableEq

namespace Finite64

def fractionBits : Nat := 1074

def unitsPerOne : Nat := 2 ^ fractionBits

theorem unitsPerOne_pos : 0 < unitsPerOne := Nat.two_pow_pos fractionBits

/-- Positions below `2 ^ 52` are spaced by one unit, and each further `2 ^ 52` of them by twice as
many as the ones before, after the first such doubling. -/
def unitsAt (position : Nat) : Nat :=
  if position < 2 ^ (52 : Nat) then position
  else (2 ^ (52 : Nat) + position % 2 ^ (52 : Nat)) * 2 ^ (position / 2 ^ (52 : Nat) - 1)

def magnitude (x : Finite64) : Nat := unitsAt x.position

def units (x : Finite64) : Int := if x.negative then -x.magnitude else x.magnitude

def zero (negative : Bool) : Finite64 := ⟨negative, ⟨0, by decide⟩⟩

def abs (x : Finite64) : Finite64 := { x with negative := false }

def truncate (x : Finite64) : Int := x.units.tdiv unitsPerOne

end Finite64

/-- The position whose magnitude is nearest to `num / den`, a tie going to the even position. It may
lie beyond the last finite one. -/
def nearestPosition (num den : Nat) : Nat :=
  let scaled := num * Finite64.unitsPerOne
  let shift := (scaled / den).log2 - 52
  let unit := den * 2 ^ shift
  let below := scaled / unit
  let rest := scaled % unit
  shift * 2 ^ (52 : Nat) +
    if unit < 2 * rest ∨ (unit = 2 * rest ∧ below % 2 = 1) then below + 1 else below

inductive Binary64 where
  | finite (x : Finite64)
  | infinite (negative : Bool)
  | nan
deriving DecidableEq

namespace Binary64

instance : Coe Finite64 Binary64 := ⟨finite⟩

def ofRatio (negative : Bool) (num den : Nat) : Binary64 :=
  let position := nearestPosition num den
  if h : position < 2047 * 2 ^ (52 : Nat) then finite ⟨negative, ⟨position, h⟩⟩
  else infinite negative

/-- The double nearest to `digits * 10 ^ exponent`. Powers of ten far outside the range of doubles
are recognised without being computed. -/
def ofDecimal (negative : Bool) (digits : Nat) (exponent : Int) : Binary64 :=
  if digits = 0 then finite (.zero negative)
  else match exponent with
    | .ofNat e => if 308 < e then infinite negative else ofRatio negative (digits * 10 ^ e) 1
    | .negSucc e =>
      if digits.log2 + 1077 ≤ 3 * (e + 1) then finite (.zero negative)
      else ofRatio negative digits (10 ^ (e + 1))

/-- The nearest double, unless the integer lies beyond the finite ones. -/
def ofInt? (n : Int) : Option Finite64 :=
  match ofRatio (n < 0) n.natAbs 1 with
  | finite x => some x
  | _ => none

/-- The double nearest to a whole number of units over a power of two. -/
def ofUnits (units : Int) (scale : Nat) : Binary64 :=
  ofRatio (units < 0) units.natAbs (Finite64.unitsPerOne * scale)

def negate : Binary64 → Binary64
  | finite x => finite { x with negative := !x.negative }
  | infinite negative => infinite !negative
  | nan => nan

def abs : Binary64 → Binary64
  | finite x => finite x.abs
  | infinite _ => infinite false
  | nan => nan

end Binary64
end FieldSchema
