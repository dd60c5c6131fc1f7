import FieldSchema.Json.Token

/-! Reading a JSON text. The reader keeps the open containers on a stack and what it expects next;
each token moves it one step, so reading is a walk along the tokens. -/
namespace FieldSchema.Json

/-- A container that is being read: its items so far, the last one first, or its members so far and
the key that the next value belongs to. -/
inductive Frame where
  | array (items : List Json)
  | member (members : List (Text × Json)) (key : Text)

inductive Expected where
  | value
  | firstItem
  | firstKey
  | key (members : List (Text × Json))
  | colon (members : List (Text × Json)) (key : Text)
  | afterValue (v : Json)

structure Reading where
  expected : Expected
  frames : List Frame

namespace Reading

def problem (r : Reading) : Problem :=
  match r.expected, r.frames with
  | .value, _ | .firstItem, _ => .noValue
  | .firstKey, _ | .key _, _ => .noKey
  | .colon _ _, _ => .noColon
  | .afterValue _, [] => .extraData
  | .afterValue _, _ :: _ => .noComma

def begin (r : Reading) (t : Token) : Except ReadError Reading :=
  match t.lexeme with
  | .scalar v => .ok ⟨.afterValue v, r.frames⟩
  | .string s => .ok ⟨.afterValue (.string s), r.frames⟩
  | .openBracket =>
    if depthLimit ≤ r.frames.length then .error .tooDeep
    else .ok ⟨.firstItem, .array [] :: r.frames⟩
  | .openBrace =>
    if depthLimit ≤ r.frames.length then .error .tooDeep else .ok ⟨.firstKey, r.frames⟩
  | .brokenString e => .error e
  | .longInteger digits => .error (.tooManyDigits digits)
  | _ => .error (.malformed .noValue t.source)

def beginKey (members : List (Text × Json)) (r : Reading) (t : Token) : Except ReadError Reading :=
  match t.lexeme with
  | .string s => .ok ⟨.colon members s, r.frames⟩
  | .brokenString e => .error e
  | _ => .error (.malformed .noKey t.source)

def step (r : Reading) (t : Token) : Except ReadError Reading :=
  match r.expected, r.frames, t.lexeme with
  | .value, _, _ => r.begin t
  | .firstItem, .array items :: frames, .closeBracket => .ok ⟨.afterValue (.array items), frames⟩
  | .firstItem, _, _ => r.begin t
  | .firstKey, frames, .closeBrace => .ok ⟨.afterValue (.object []), frames⟩
  | .firstKey, _, _ => r.beginKey [] t
  | .key members, _, _ => r.beginKey members t
  | .colon members key, frames, .colon => .ok ⟨.value, .member members key :: frames⟩
  | .afterValue v, .array items :: frames, .comma => .ok ⟨.value, .array (v :: items) :: frames⟩
  | .afterValue v, .array items :: frames, .closeBracket =>
    .ok ⟨.afterValue (.array (v :: items).reverse), frames⟩
  | .afterValue v, .member members key :: frames, .comma => .ok ⟨.key (put key v members), frames⟩
  | .afterValue v, .member members key :: frames, .closeBrace =>
    .ok ⟨.afterValue (.object (put key v members)), frames⟩
  | _, _, _ => .error (.malformed r.problem t.source)

/-- At the end of the text one whole value must have been read. -/
def finish (r : Reading) : Except ReadError Json :=
  match r.expected, r.frames with
  | .afterValue v, [] => .ok v
  | _, _ => .error (.malformed r.problem [])

def run (r : Reading) (s : List Char) : Except ReadError Json :=
  match _h : nextToken? s with
  | none => r.finish
  | some t =>
    match r.step t with
    | .ok next => run next t.rest
    | .error e => .error e
termination_by s.length
decreasing_by exact length_nextToken? _h

end Reading

def read (text : List Char) : Except ReadError Json :=
  match text with
  | '\ufeff' :: _ => .error (.malformed .byteOrderMark text)
  | _ => Reading.run ⟨.value, []⟩ text

end FieldSchema.Json
