import FieldSchema.Text.Hex

/-! Making ASCII JSON text readable: `\u` escapes of printable characters become the characters, and
curly double quotes become escaped straight ones. Characters that a JSON string has to escape stay
escaped, so the text keeps its meaning but for the curly quotes. -/
namespace FieldSchema.Template

def isCurlyQuote (unit : Nat) : Bool := unit == 0x201c || unit == 0x201d

/-- Units whose escape is kept: controls, the backslash and surrogates. -/
def staysEscaped (unit : Nat) : Bool :=
  unit < 0x20 || unit == 0x7f || unit == 0x5c || (0xd800 ≤ unit && unit ≤ 0xdfff)

/-- An escape counts unless its backslash is itself escaped. -/
def reveal : List Char → List Char
  | '\\' :: '\\' :: rest => '\\' :: '\\' :: reveal rest
  | '\\' :: 'u' :: a :: b :: c :: d :: rest =>
    match Hex.unit? a b c d with
    | some unit =>
      if isCurlyQuote unit || unit == 0x22 then '\\' :: '"' :: reveal rest
      else if staysEscaped unit then '\\' :: 'u' :: a :: b :: c :: d :: reveal rest
      else Char.ofNat unit :: reveal rest
    | none => '\\' :: reveal ('u' :: a :: b :: c :: d :: rest)
  | c :: rest => c :: reveal rest
  | [] => []

end FieldSchema.Template
