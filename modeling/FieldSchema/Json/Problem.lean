/-! What can be wrong with a JSON text, and where. A fault in the text is located by the part of it
still unread there; lines and columns are counted from that when they are asked for. -/
namespace FieldSchema.Json

inductive Problem where
  | byteOrderMark
  | noValue
  | noKey
  | noColon
  | noComma
  | extraData
  | openString
  | controlCharacter
  | unknownEscape
  | unicodeEscape
deriving DecidableEq

def Problem.message : Problem → String
  | byteOrderMark => "Unexpected UTF-8 BOM (decode using utf-8-sig)"
  | noValue => "Expecting value"
  | noKey => "Expecting property name enclosed in double quotes"
  | noColon => "Expecting ':' delimiter"
  | noComma => "Expecting ',' delimiter"
  | extraData => "Extra data"
  | openString => "Unterminated string starting at"
  | controlCharacter => "Invalid control character at"
  | unknownEscape => "Invalid \\escape"
  | unicodeEscape => "Invalid \\uXXXX escape"

inductive ReadError where
  | malformed (problem : Problem) (rest : List Char)
  | tooManyDigits (count : Nat)
  | tooDeep

def digitLimit : Nat := 4300

def depthLimit : Nat := 990

/-- A position in a text, the line and the column counted from one. -/
structure Place where
  offset : Nat
  line : Nat
  column : Nat

/-- The place in `text` where only `rest` is still to come. -/
def Place.of (text rest : List Char) : Place :=
  let before := text.take (text.length - rest.length)
  { offset := before.length
    line := before.count '\n' + 1
    column := (before.reverse.takeWhile (· != '\n')).length + 1 }

def tooManyDigitsMessage (count : Nat) : String :=
  s!"Exceeds the limit ({digitLimit} digits) for integer string conversion: value has {count} " ++
    "digits; use sys.set_int_max_str_digits() to increase the limit"

def notWrittenMessage : String :=
  s!"Exceeds the limit ({digitLimit} digits) for integer string conversion; " ++
    "use sys.set_int_max_str_digits() to increase the limit"

end FieldSchema.Json
