import FieldSchema.Number.Literal
import FieldSchema.Text.Blank

/-! Integers as people write them in a setting: with white space around them, a plus sign, zeros in
front, underscores between digits and a fraction of zeros. -/
namespace FieldSchema.Terminal.LooseInteger

/-- What follows the zeros in front, `last` being the zero or underscore read before. The last of
them stays if no digit comes after it. -/
def afterZeros? (last : Char) : List Char → Option (List Char)
  | [] => some [last]
  | c :: rest =>
    if c = '0' ∨ c = '_' then afterZeros? c rest
    else if c = '.' then some (last :: c :: rest)
    else if c.isDigit ∨ c = '-' then some (c :: rest)
    else none

def withoutZeros? : List Char → Option (List Char)
  | '0' :: rest => afterZeros? '0' rest
  | c :: rest => if c.isDigit ∨ c = '-' then some (c :: rest) else none
  | [] => none

/-- A fraction of one or more zeros does not count. -/
def withoutFraction (s : List Char) : List Char :=
  match s.dropWhile (· ≠ '.') with
  | '.' :: zero :: zeros => if (zero :: zeros).all (· == '0') then s.takeWhile (· ≠ '.') else s
  | _ => s

/-- Single underscores may stand between other characters. -/
def withoutUnderscores? : List Char → Option (List Char)
  | [] => some []
  | ['_'] => none
  | '_' :: rest => if rest.head? = some '_' then none else withoutUnderscores? rest
  | c :: rest => (withoutUnderscores? rest).map (c :: ·)

/-- A minus sign is told apart; a plus sign is dropped, unless a minus sign comes after it. -/
def withoutSign : List Char → Bool × List Char
  | '-' :: rest => (true, rest)
  | '+' :: '-' :: rest => (false, '+' :: '-' :: rest)
  | '+' :: rest => (false, rest)
  | s => (false, s)

/-- An optional minus sign and digits, the first of them no zero unless it stands alone. -/
def strict? (s : List Char) : Option Int :=
  match NumberLiteral.scan? s with
  | some (literal, []) => if literal.isInteger then some literal.toInt else none
  | _ => none

/-- The integer that a text names. A minus sign may stand in front of everything or behind zeros,
but not in both places. -/
def ofText? (s : List Char) : Option Int := do
  let (negative, unsigned) := withoutSign (Blank.trim Blank.isWhiteSpace s)
  let significant ← withoutZeros? unsigned
  if (withoutFraction significant).head? = some '_' then none
  let plain ← withoutUnderscores? (withoutFraction significant)
  strict? (if negative then '-' :: plain else plain)

example : ofText? " +0_3.00 ".toList = some 3 := by decide
example : ofText? "0_-_0".toList = some 0 := by decide
example : ofText? "2.".toList = none := by decide
example : ofText? "-_0".toList = none := by decide

end FieldSchema.Terminal.LooseInteger
