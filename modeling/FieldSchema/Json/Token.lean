import FieldSchema.Json.Problem
import FieldSchema.Json.Value
import FieldSchema.Number.Literal
import FieldSchema.Text.Hex
import FieldSchema.Text.Search

/-! The tokens of a JSON text. A token that cannot be read is a token too, so that a fault counts
only where its token is looked at. -/
namespace FieldSchema.Json

inductive Lexeme where
  | openBrace
  | closeBrace
  | openBracket
  | closeBracket
  | comma
  | colon
  | string (s : Text)
  | scalar (v : Json)
  | brokenString (e : ReadError)
  | longInteger (digits : Nat)
  | stray

/-- A token with the text from its first character on, and the text after it. -/
structure Token where
  lexeme : Lexeme
  source : List Char
  rest : List Char

/-- Adds a code point to the reversed text read so far; the second half of a pair completes it. -/
def push (p : CodePoint) : Text → Text
  | q :: acc =>
    match q.joined? p with
    | some c => .char c :: acc
    | none => p :: q :: acc
  | [] => [p]

def unescape? : Char → Option Char
  | '"' => some '"'
  | '\\' => some '\\'
  | '/' => some '/'
  | 'b' => some '\x08'
  | 'f' => some '\x0c'
  | 'n' => some '\n'
  | 'r' => some '\r'
  | 't' => some '\t'
  | _ => none

/-- Reads to the closing quote; `start` is the text from the opening quote on. Something must follow
the four digits of a `\u` escape. -/
def scanString (start : List Char) (acc : Text) : List Char → Except ReadError (Text × List Char)
  | [] | ['\\'] => .error (.malformed .openString start)
  | '"' :: rest => .ok (acc.reverse, rest)
  | '\\' :: 'u' :: a :: b :: c :: d :: next :: rest =>
    match Hex.unit? a b c d with
    | some n => scanString start (push (.ofUnit n) acc) (next :: rest)
    | none => .error (.malformed .unicodeEscape ('u' :: a :: b :: c :: d :: next :: rest))
  | '\\' :: 'u' :: rest => .error (.malformed .unicodeEscape ('u' :: rest))
  | '\\' :: e :: rest =>
    match unescape? e with
    | some c => scanString start (.char c :: acc) rest
    | none => .error (.malformed .unknownEscape ('\\' :: e :: rest))
  | c :: rest =>
    if c.toNat < 0x20 then .error (.malformed .controlCharacter (c :: rest))
    else scanString start (.char c :: acc) rest

theorem length_scanString {start : List Char} {acc s : Text} {t rest : List Char}
    (h : scanString start acc t = .ok (s, rest)) : rest.length < t.length := by
  fun_induction scanString start acc t <;> simp_all <;> omega

/-- A number token: an integer with too many digits is not converted. -/
def numberLexeme (l : NumberLiteral) : Lexeme :=
  if l.isInteger then
    if digitLimit < l.whole.length then .longInteger l.whole.length else .scalar (.int l.toInt)
  else .scalar (.real l.toBinary64)

def isGap (c : Char) : Bool := c == ' ' || c == '\t' || c == '\n' || c == '\r'

def punctuation? : Char → Option Lexeme
  | '\x7b' => some .openBrace
  | '\x7d' => some .closeBrace
  | '[' => some .openBracket
  | ']' => some .closeBracket
  | ',' => some .comma
  | ':' => some .colon
  | _ => none

def keywords : List (String × Json) := [
  ("null", .null), ("true", .bool true), ("false", .bool false), ("NaN", .real .nan),
  ("Infinity", .real (.infinite false)), ("-Infinity", .real (.infinite true))]

/-- A keyword, a number or a character that starts no token. -/
def scanScalar (source : List Char) : Token :=
  match keywords.findSome? fun (word, v) => (Search.after? word.toList source).map (v, ·) with
  | some (v, rest) => ⟨.scalar v, source, rest⟩
  | none =>
    match NumberLiteral.scan? source with
    | some (l, rest) => ⟨numberLexeme l, source, rest⟩
    | none => ⟨.stray, source, []⟩

def scanToken (c : Char) (rest : List Char) : Token :=
  match punctuation? c with
  | some l => ⟨l, c :: rest, rest⟩
  | none =>
    if c = '"' then
      match scanString (c :: rest) [] rest with
      | .ok (s, after) => ⟨.string s, c :: rest, after⟩
      | .error e => ⟨.brokenString e, c :: rest, []⟩
    else scanScalar (c :: rest)

/-- The first token after the gap, unless the text ends there. -/
def nextToken? (s : List Char) : Option Token :=
  match s.dropWhile isGap with
  | [] => none
  | c :: rest => some (scanToken c rest)

theorem length_scanScalar (c : Char) (s : List Char) :
    (scanScalar (c :: s)).rest.length < (c :: s).length := by
  unfold scanScalar
  split
  · rename_i v rest h
    obtain ⟨⟨word, v'⟩, hm, hw⟩ := List.exists_of_findSome?_eq_some h
    obtain ⟨r, hr, hv⟩ := Option.map_eq_some_iff.1 hw
    obtain ⟨rfl, rfl⟩ := by simpa using hv
    have hl := congrArg List.length (Search.eq_append_of_after? hr)
    have hp : 0 < word.toList.length := by
      simp only [keywords, List.mem_cons, Prod.mk.injEq, List.not_mem_nil, or_false] at hm
      rcases hm with h | h | h | h | h | h <;> rw [h.1] <;> decide
    simp only [List.length_append] at hl
    dsimp only
    omega
  · split
    · rename_i h
      exact NumberLiteral.length_scan? h
    · simp

theorem length_scanToken (c : Char) (s : List Char) :
    (scanToken c s).rest.length < (c :: s).length := by
  unfold scanToken
  split
  · simp
  · split
    · split
      · rename_i h
        have := length_scanString h
        simp; omega
      · simp
    · exact length_scanScalar c s

theorem length_nextToken? {s : List Char} {t : Token} (h : nextToken? s = some t) :
    t.rest.length < s.length := by
  have hd := (List.dropWhile_sublist isGap (l := s)).length_le
  unfold nextToken? at h
  split at h
  · simp at h
  · rename_i c rest hs
    obtain rfl := by simpa using h
    have := length_scanToken c rest
    rw [← hs] at this
    omega

end FieldSchema.Json
