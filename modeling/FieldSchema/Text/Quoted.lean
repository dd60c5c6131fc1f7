import FieldSchema.Text.Hex
import FieldSchema.Text.Printable

/-! Strings as messages show them: in quotes, with the quote, the backslash and every unprintable
character escaped. The mark is a single quote unless the text holds one and no double quote. -/
namespace FieldSchema.Quoted

def mark (s : List Char) : Char :=
  if s.contains '\'' && !s.contains '"' then '"' else '\''

def escape (mark c : Char) : List Char :=
  if c = mark ∨ c = '\\' then ['\\', c]
  else if c = '\n' then ['\\', 'n']
  else if c = '\r' then ['\\', 'r']
  else if c = '\t' then ['\\', 't']
  else if Printable.isPrintable c then [c]
  else if c.toNat < 0x100 then '\\' :: 'x' :: Hex.padded 2 c.toNat
  else if c.toNat < 0x10000 then '\\' :: 'u' :: Hex.padded 4 c.toNat
  else '\\' :: 'U' :: Hex.padded 8 c.toNat

def quote (s : List Char) : List Char :=
  mark s :: s.flatMap (escape (mark s)) ++ [mark s]

def ofString (s : String) : String := String.ofList (quote s.toList)

end FieldSchema.Quoted
