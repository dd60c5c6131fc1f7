import FieldSchema.Text.CodePoint
import FieldSchema.Text.Hex

/-! How a JSON string spells a code point. The quote, the backslash and the control characters below
the space are always escaped; the rest either stands for itself or, in ASCII text, becomes one
`\u` escape for each of its 16-bit units. -/
namespace FieldSchema.Json.Escape

def unit (n : Nat) : List Char := '\\' :: 'u' :: Hex.padded 4 n

/-- The letter after the backslash in a two-character escape. -/
def letter? (c : Char) : Option Char :=
  match c with
  | '"' => some '"'
  | '\\' => some '\\'
  | '\n' => some 'n'
  | '\r' => some 'r'
  | '\t' => some 't'
  | '\x0c' => some 'f'
  | '\x08' => some 'b'
  | _ => none

def verbatim (c : Char) : List Char :=
  match letter? c with
  | some l => ['\\', l]
  | none => if c.toNat < 0x20 then unit c.toNat else [c]

def ascii (p : CodePoint) : List Char :=
  match p with
  | .char c =>
    match letter? c with
    | some l => ['\\', l]
    | none => if 0x20 ≤ c.toNat ∧ c.toNat < 0x7f then [c] else p.units.flatMap unit
  | .surrogate _ => p.units.flatMap unit

def string (s : String) : String := String.ofList (s.toList.flatMap verbatim)

end FieldSchema.Json.Escape
