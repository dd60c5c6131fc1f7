import FieldSchema.Terminal.Markup.Emoji
import FieldSchema.Terminal.Markup.Handler
import FieldSchema.Terminal.Markup.Style

/-! Console markup. A tag in square brackets opens or closes a style and does not show; a backslash
before it makes it plain text. A tag starts with a small letter, `#`, `/` or `@`. In plain text the
name of an emoji between colons stands for the emoji. -/
namespace FieldSchema.Terminal.Markup

inductive Piece where
  | text (t : Text)
  | tag (name : Text)

def lbracket : CodePoint := .char '['
def rbracket : CodePoint := .char ']'
def backslash : CodePoint := .char '\\'

def opensTag : CodePoint → Bool
  | .char c => ('a' ≤ c && c ≤ 'z') || c == '#' || c == '/' || c == '@'
  | .surrogate _ => false

/-- The inside of the tag that a text after an opening bracket starts with, and the text after it.
-/
def scanTag? (s : Text) : Option (Text × Text) :=
  match s with
  | [] => none
  | c :: rest =>
    if opensTag c then
      match rest.dropWhile fun d => d ≠ lbracket && d ≠ rbracket with
      | d :: after =>
        if d = rbracket then
          some (c :: rest.takeWhile fun d => d ≠ lbracket && d ≠ rbracket, after)
        else none
      | [] => none
    else none

theorem length_scanTag? {s inside after : Text} (h : scanTag? s = some (inside, after)) :
    after.length < s.length := by
  unfold scanTag? at h
  split at h
  · simp at h
  · rename_i c rest
    have hd : (rest.dropWhile fun d => d ≠ lbracket && d ≠ rbracket).length ≤ rest.length :=
      (List.dropWhile_sublist _).length_le
    grind

/-- The pieces of a text. `pending` is the text before, reversed, up to `slashes` backslashes. -/
def pieces (pending : Text) (slashes : Nat) (s : Text) : List Piece :=
  match s with
  | [] => [.text (List.replicate slashes backslash ++ pending).reverse]
  | c :: rest =>
    if c = backslash then pieces pending (slashes + 1) rest
    else if c = lbracket then
      match _h : scanTag? rest with
      | some (inside, after) =>
        let shown := List.replicate (slashes / 2) backslash
        let tagText := lbracket :: inside ++ [rbracket]
        .text pending.reverse :: .text shown ::
          (if slashes % 2 = 1 then .text tagText else .tag inside) :: pieces [] 0 after
      | none => pieces (c :: (List.replicate slashes backslash ++ pending)) 0 rest
    else pieces (c :: (List.replicate slashes backslash ++ pending)) 0 rest
termination_by s.length
decreasing_by
  all_goals first | (have shorter := length_scanTag? _h; simp_all; omega) | simp

/-- In plain text a backslash before an opening bracket is dropped. -/
def unescapeBrackets : Text → Text
  | a :: b :: rest =>
    if a = backslash ∧ b = lbracket then lbracket :: unescapeBrackets rest
    else a :: unescapeBrackets (b :: rest)
  | short => short

/-- The control characters that a console leaves out. -/
def isShown : CodePoint → Bool
  | .char c => !(c == '\x07' || c == '\x08' || c == '\x0b' || c == '\x0c' || c == '\r')
  | .surrogate _ => true

def shown (t : Text) : Text := (Emoji.replace t).filter isShown

structure OpenTag where
  name : List Char
  /-- What comes after an equals sign. -/
  parameters : List Char

def OpenTag.read (inside : List Char) : Except Error OpenTag := do
  let name ← Style.normalize (inside.takeWhile (· ≠ '='))
  return ⟨name, (inside.dropWhile (· ≠ '=')).drop 1⟩

/-- A handler cannot be closed unless its parameters make sense. -/
def OpenTag.closes (tag : OpenTag) : Bool :=
  tag.name.head? ≠ some '@' || tag.parameters = [] || Handler.fits tag.parameters

/-- Closes the tag opened last, or the last of the given name. -/
def close (opened : List OpenTag) (name : List Char) : Except Error (List OpenTag) := do
  let name := Blank.trim Blank.isBlank (name.takeWhile (· ≠ '='))
  let style ← if name = [] then pure name else Style.normalize name
  let isClosed (tag : OpenTag) : Bool := name = [] || tag.name = style
  match opened.find? isClosed with
  | some tag => if tag.closes then return opened.eraseP isClosed else throw .parameters
  | none => throw .nothingToClose

/-- The text that is shown, given the tags open so far. -/
def render (opened : List OpenTag) : List Piece → Except Error Text
  | [] => .ok []
  | .text t :: rest => (render opened rest).map (shown (unescapeBrackets t) ++ ·)
  | .tag inside :: rest => do
    match inside.chars with
    | '/' :: name => render (← close opened name) rest
    | chars => render ((← OpenTag.read chars) :: opened) rest

def plain (markup : Text) : Except Error Text :=
  if markup.contains lbracket then render [] (pieces [] 0 markup) else .ok (shown markup)

/-- Doubles the backslashes before each tag and puts one more there. -/
def escapeTags (slashes : Nat) (s : Text) : Text :=
  match s with
  | [] => List.replicate slashes backslash
  | c :: rest =>
    if c = backslash then escapeTags (slashes + 1) rest
    else if c = lbracket then
      match _h : scanTag? rest with
      | some (inside, after) =>
        List.replicate (2 * slashes + 1) backslash ++ lbracket :: inside ++
          rbracket :: escapeTags 0 after
      | none => List.replicate slashes backslash ++ c :: escapeTags 0 rest
    else List.replicate slashes backslash ++ c :: escapeTags 0 rest
termination_by s.length
decreasing_by
  all_goals first | (have shorter := length_scanTag? _h; simp_all; omega) | simp

/-- Markup that shows the text. A single backslash at the end is doubled, lest it escape the tag
that comes next. -/
def escape (s : Text) : Text :=
  let escaped := escapeTags 0 s
  match escaped.reverse with
  | [a] => if a = backslash then escaped ++ [backslash] else escaped
  | a :: b :: _ => if a = backslash ∧ b ≠ backslash then escaped ++ [backslash] else escaped
  | [] => escaped

end FieldSchema.Terminal.Markup
