import FieldSchema.Text.Hex

/-! The tokens of constants: numbers, quoted texts and the marks between them. Blanks, comments and,
inside brackets, line breaks only separate tokens. -/
namespace FieldSchema.Terminal.Markup.Constant

inductive Bracket where
  | round
  | curly
deriving DecidableEq

inductive Token where
  | number (imaginary : Bool)
  | text (bytes : Bool)
  /-- A word or an ellipsis that is a constant by itself. -/
  | word
  /-- The name of the empty set. -/
  | setName
  | opening (b : Bracket)
  | closing (b : Bracket)
  | comma
  | colon
  | sign
  | newline
deriving DecidableEq

def isGrouped (isDigit : Char → Bool) : List Char → Bool
  | [] => false
  | [c] => isDigit c
  | c :: d :: rest =>
    isDigit c && if d = '_' then isGrouped isDigit rest else isGrouped isDigit (d :: rest)

/-- The digits of the base that a letter after a zero stands for. -/
def digitsOfBase? (letter : Char) : Option (Char → Bool) :=
  match letter.toLower with
  | 'x' => some fun c => (Hex.digit? c).isSome
  | 'o' => some fun c => '0' ≤ c && c ≤ '7'
  | 'b' => some fun c => c == '0' || c == '1'
  | _ => none

def maxIntegerDigits : Nat := 4300

/-- A decimal integer has no zeros in front, unless all its digits are zeros. -/
def isInteger (s : List Char) : Bool :=
  match s with
  | '0' :: letter :: digits =>
    match digitsOfBase? letter, digits with
    | some isDigit, '_' :: digits => isGrouped isDigit digits
    | some isDigit, digits => isGrouped isDigit digits
    | none, _ => isGrouped (· == '0') s
  | _ => isGrouped Char.isDigit s && (s.filter Char.isDigit).length ≤ maxIntegerDigits

def isExponent : List Char → Bool
  | _ :: '+' :: digits | _ :: '-' :: digits => isGrouped Char.isDigit digits
  | _ :: digits => isGrouped Char.isDigit digits
  | [] => false

def isExponentMark (c : Char) : Bool := c == 'e' || c == 'E'

def isReal (s : List Char) : Bool :=
  let mantissa := s.takeWhile (!isExponentMark ·)
  let exponent := s.dropWhile (!isExponentMark ·)
  let whole := mantissa.takeWhile (· ≠ '.')
  let mantissaFits := match mantissa.dropWhile (· ≠ '.') with
    | _ :: fraction =>
      (whole ≠ [] || fraction ≠ []) && (whole = [] || isGrouped Char.isDigit whole) &&
        (fraction = [] || isGrouped Char.isDigit fraction)
    | [] => isGrouped Char.isDigit whole && exponent ≠ []
  mantissaFits && (exponent = [] || isExponent exponent)

def number? (s : List Char) : Option Token :=
  match s.reverse with
  | last :: front =>
    if last = 'j' ∨ last = 'J' then
      let front := front.reverse
      if isGrouped Char.isDigit front || isReal front then some (.number true) else none
    else if isInteger s || isReal s then some (.number false)
    else none
  | [] => none

/-- The characters of names; all those outside ASCII are taken for such. -/
def isNameChar (c : Char) : Bool := c.isAlphanum || c == '_' || 0x80 ≤ c.toNat

/-- The characters in front that no token but a number could share with it. -/
def numberText (s : List Char) : List Char :=
  let isMantissa (c : Char) : Bool := c.isDigit || c == '_' || c == '.'
  let isPart (c : Char) : Bool := isNameChar c || c == '.'
  match s.dropWhile isMantissa with
  | mark :: sign :: rest =>
    if isExponentMark mark && (sign == '+' || sign == '-') then
      s.takeWhile isMantissa ++ mark :: sign :: rest.takeWhile isPart
    else s.takeWhile isPart
  | _ => s.takeWhile isPart

def isQuote (c : Char) : Bool := c == '\'' || c == '"'

/-- How a quoted text is to be read. -/
structure Quoting where
  raw : Bool
  bytes : Bool

def quotings : List (String × Quoting) := [
  ("", ⟨false, false⟩), ("u", ⟨false, false⟩), ("r", ⟨true, false⟩), ("b", ⟨false, true⟩),
  ("br", ⟨true, true⟩), ("rb", ⟨true, true⟩)]

/-- What stands before the closing quote, which is tripled if the opening one is. A line may end in
it only after a backslash or between tripled quotes. -/
def scanQuoted? (quote : Char) (tripled : Bool) : List Char → Option (List Char)
  | [] => none
  | '\\' :: c :: rest => (scanQuoted? quote tripled rest).map fun s => '\\' :: c :: s
  | c :: rest =>
    if c = quote ∧ (!tripled ∨ rest.take 2 = [quote, quote]) then some []
    else if c = '\n' ∧ !tripled then none
    else (scanQuoted? quote tripled rest).map (c :: ·)

def areHex (count : Nat) (s : List Char) : Bool :=
  let digits := s.take count
  digits.length == count && digits.all fun c => (Hex.digit? c).isSome

def maxCodePoint : Nat := 0x10ffff

def escapesFit (bytes : Bool) : List Char → Bool
  | '\\' :: c :: rest =>
    escapesFit bytes rest &&
      match bytes, c with
      | _, 'x' => areHex 2 rest
      | false, 'u' => areHex 4 rest
      | false, 'U' => areHex 8 rest && Hex.value (rest.take 8) ≤ maxCodePoint
      | false, 'N' => false
      | _, _ => true
  | _ :: rest => escapesFit bytes rest
  | [] => true

def Quoting.admits (q : Quoting) (s : List Char) : Bool :=
  (!q.bytes || s.all (·.toNat < 0x80)) && (q.raw || escapesFit q.bytes s)

/-- A quoted text after its opening quote, and how many characters it takes with both quotes. -/
def quoted? (q : Quoting) (quote : Char) (s : List Char) : Option (Token × Nat) := do
  let tripled := s.take 2 = [quote, quote]
  let inside ← scanQuoted? quote tripled (if tripled then s.drop 2 else s)
  if q.admits inside then return (.text q.bytes, inside.length + if tripled then 6 else 2)
  else none

def word? (s : List Char) : Option Token :=
  match String.ofList s with
  | "None" | "True" | "False" => some .word
  | "set" => some .setName
  | _ => none

def mark? : Char → Option Token
  | '(' => some (.opening .round)
  | ')' => some (.closing .round)
  | '\x7b' => some (.opening .curly)
  | '\x7d' => some (.closing .curly)
  | ',' => some .comma
  | ':' => some .colon
  | '+' | '-' => some .sign
  | _ => none

def scan? (s : List Char) : Option (Token × Nat) :=
  match s with
  | [] => none
  | c :: rest =>
    if c.isDigit ∨ (c = '.' ∧ (rest.head?.any Char.isDigit)) then
      (number? (numberText s)).map (·, (numberText s).length)
    else if c = '.' then if rest.take 2 = ['.', '.'] then some (.word, 3) else none
    else if isNameChar c ∨ isQuote c then
      let name := s.takeWhile isNameChar
      match s.dropWhile isNameChar with
      | quote :: after =>
        if isQuote quote then do
          let q ← quotings.lookup (String.ofList (name.map Char.toLower))
          let (token, n) ← quoted? q quote after
          return (token, name.length + n)
        else (word? name).map (·, name.length)
      | [] => (word? name).map (·, name.length)
    else (mark? c).map (·, 1)

def isSpace (c : Char) : Bool := c == ' ' || c == '\t' || c == '\x0c'

/-- Whether something but a comment stands on the line, and not at its start. A form feed starts the
line anew, and a backslash at its end joins it with the next one. -/
def isIndented (started : Bool) : List Char → Bool
  | '\\' :: '\n' :: rest => isIndented started rest
  | '\x0c' :: rest => isIndented false rest
  | ' ' :: rest | '\t' :: rest => isIndented true rest
  | [] | '#' :: _ | '\n' :: _ => false
  | _ => started

def Token.depthAfter (depth : Nat) : Token → Nat
  | opening _ => depth + 1
  | closing _ => depth - 1
  | _ => depth

/-- The tokens of a text inside `depth` brackets. A line break counts outside of brackets only, and
not after a backslash; a line after it must not be indented. -/
def tokens? (depth : Nat) (s : List Char) : Option (List Token) :=
  match s with
  | [] => some []
  | c :: rest =>
    if isSpace c then tokens? depth rest
    else if c = '#' then tokens? depth (rest.dropWhile (· ≠ '\n'))
    else if c = '\\' then
      if rest.head? = some '\n' ∧ 1 < rest.length then tokens? depth (rest.drop 1) else none
    else if c = '\n' then
      if 0 < depth then tokens? depth rest
      else if isIndented false rest then none
      else (tokens? depth rest).map (.newline :: ·)
    else
      match scan? s with
      | some (token, n) =>
        (tokens? (token.depthAfter depth) (rest.drop (n - 1))).map (token :: ·)
      | none => none
termination_by s.length
decreasing_by
  all_goals simp only [List.length_cons, List.length_drop]
  all_goals first | omega | exact Nat.lt_succ_of_le (List.dropWhile_sublist _).length_le

end FieldSchema.Terminal.Markup.Constant
