/-! Hexadecimal digits: how escapes and rule names spell code points. -/
namespace FieldSchema.Hex

/-- Lower-case digits, with zeros in front up to `width` places. -/
def padded (width n : Nat) : List Char :=
  let digits := Nat.toDigits 16 n
  List.replicate (width - digits.length) '0' ++ digits

def digit? (c : Char) : Option Nat :=
  if c.isDigit then some (c.toNat - '0'.toNat)
  else if 'a' ≤ c ∧ c ≤ 'f' then some (c.toNat - 'a'.toNat + 10)
  else if 'A' ≤ c ∧ c ≤ 'F' then some (c.toNat - 'A'.toNat + 10)
  else none

/-- The value of a row of digits, the most significant first. -/
def value (s : List Char) : Nat := s.foldl (fun n c => n * 16 + (digit? c).getD 0) 0

def unit? (a b c d : Char) : Option Nat := do
  let a ← digit? a
  let b ← digit? b
  let c ← digit? c
  let d ← digit? d
  return ((a * 16 + b) * 16 + c) * 16 + d

end FieldSchema.Hex
