import FieldSchema.Grammar.Compile
import FieldSchema.Proofs.Grammar.Derivation

/-! Reading the text of a grammar. A production is read one character at a time, with the open
groups on a stack; what stands in quotes or brackets is collected first and spelled out at its end.
Each line defines one rule. -/
namespace FieldSchema.Grammar.Notation

/-- A group that is being read, what was read last first. -/
structure Level where
  alternatives : List Sequence
  items : Sequence

namespace Level

def fresh : Level := ⟨[], []⟩

def push (l : Level) (i : Item) : Level := { l with items := i :: l.items }

def bar (l : Level) : Level := ⟨l.items.reverse :: l.alternatives, []⟩

def close (l : Level) : Production := l.bar.alternatives.reverse

def maybe? (l : Level) : Option Level :=
  match l.items with
  | [] => none
  | .group p :: rest => some { l with items := .optional p :: rest }
  | i :: rest => some { l with items := .optional [[i]] :: rest }

def extend? (l : Level) (c : Char) : Option Level :=
  match l.items with
  | .ref name :: rest => some { l with items := .ref (name.push c) :: rest }
  | _ => none

end Level

inductive Mode where
  | plain
  | name
  /-- Up to a closing mark, what was read so far, the last character first. -/
  | quoted (mark : Char) (raw : List Char) (escaped : Bool)

structure Reading where
  mode : Mode
  level : Level
  outer : List Level

def isRuleChar (c : Char) : Bool := isNameChar c || c == '-'

def escape? : Char → Option Char
  | 'n' => some '\n'
  | 'r' => some '\r'
  | 't' => some '\t'
  | '"' => some '"'
  | '\\' => some '\\'
  | '[' => some '['
  | ']' => some ']'
  | _ => none

/-- The characters that a literal or a class spells, each with whether it is escaped. -/
def spelled? : List Char → Option (List (Char × Bool))
  | [] => some []
  | ['\\'] => none
  | '\\' :: 'x' :: a :: b :: rest => do
    let high ← Hex.digit? a
    let low ← Hex.digit? b
    return (Char.ofNat (high * 16 + low), true) :: (← spelled? rest)
  | '\\' :: c :: rest => do
    let c ← escape? c
    return (c, true) :: (← spelled? rest)
  | c :: rest => do return (c, false) :: (← spelled? rest)

def ranges : List (Char × Bool) → List (Char × Char)
  | [] => []
  | (a, _) :: ('-', false) :: (b, _) :: rest => (a, b) :: ranges rest
  | (a, _) :: rest => (a, a) :: ranges rest

def classOf : List (Char × Bool) → Item
  | ('^', false) :: rest => .oneOf false (ranges rest)
  | spelled => .oneOf true (ranges spelled)

def item? (mark : Char) (raw : List Char) : Option Item :=
  (spelled? raw).map fun spelled =>
    if mark = '"' then .text (String.ofList (spelled.map (·.1))) else classOf spelled

def step (r : Reading) (c : Char) : Option Reading :=
  match r.mode with
  | .quoted mark raw true => some { r with mode := .quoted mark (c :: raw) false }
  | .quoted mark raw false =>
    if c = mark then (item? mark raw.reverse).map fun i => ⟨.plain, r.level.push i, r.outer⟩
    else some { r with mode := .quoted mark (c :: raw) (c == '\\') }
  | mode =>
    if c = ' ' then some { r with mode := .plain }
    else if c = '"' then some { r with mode := .quoted '"' [] false }
    else if c = '[' then some { r with mode := .quoted ']' [] false }
    else if c = '(' then some ⟨.plain, .fresh, r.level :: r.outer⟩
    else if c = ')' then
      match r.outer with
      | [] => none
      | level :: outer => some ⟨.plain, level.push (.group r.level.close), outer⟩
    else if c = '|' then some ⟨.plain, r.level.bar, r.outer⟩
    else if c = '?' then r.level.maybe?.map fun level => ⟨.plain, level, r.outer⟩
    else if isRuleChar c then
      match mode with
      | .name => (r.level.extend? c).map fun level => ⟨.name, level, r.outer⟩
      | _ => some ⟨.name, r.level.push (.ref (String.singleton c)), r.outer⟩
    else none

def run (r : Reading) (s : List Char) : Option Reading := s.foldlM step r

def finish? (r : Reading) : Option Production :=
  match r.mode, r.outer with
  | .quoted .., _ => none
  | _, [] => some r.level.close
  | _, _ => none

def production? (s : List Char) : Option Production := (run ⟨.plain, .fresh, []⟩ s).bind finish?

def rule? (line : List Char) : Option (String × Production) :=
  let name := line.takeWhile isRuleChar
  if name = [] then none
  else
    (Search.after? " ::= ".toList (line.dropWhile isRuleChar)).bind fun body =>
      (production? body).map (String.ofList name, ·)

def lines : List Char → List (List Char)
  | [] => []
  | c :: s =>
    if c = '\n' then [] :: lines s
    else
      match lines s with
      | [] => [[c]]
      | line :: rest => (c :: line) :: rest

def rules? (source : String) : Option (List (String × Production)) :=
  (lines source.toList).mapM rule?

end FieldSchema.Grammar.Notation
