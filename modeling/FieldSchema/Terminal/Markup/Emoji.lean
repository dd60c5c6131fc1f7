import FieldSchema.Text.Blank
import FieldSchema.Text.CodePoint
import FieldSchema.Text.Hex
import FieldSchema.Text.Lowercase
import FieldSchema.Terminal.Markup.EmojiTable

/-! Emoji by name: a name between colons, in which no blank stands. A name may end in a word for the
variant to show, a picture or plain text. -/
namespace FieldSchema.Terminal.Markup.Emoji

/-- The name and the characters that an entry of the table gives. -/
def entry? (s : String) : Option (String × String) :=
  match s.splitOn " " with
  | [name, codes] =>
    some (name, String.ofList ((codes.splitOn "-").map fun code => .ofNat (Hex.value code.toList)))
  | _ => none

def entries : List (String × String) :=
  (EmojiTable.rows.flatMap (·.splitOn ",")).filterMap entry?

/-- The words for the variants, and the character that each adds. -/
def variants : List (String × Char) := [("emoji", '\ufe0f'), ("text", '\ufe0e')]

/-- A name without the word for its variant, and the character of that. -/
def withoutVariant (name : List Char) : List Char × List Char :=
  match variants.find? fun (word, _) => ('-' :: word.toList).isSuffixOf name with
  | some (word, c) => (name.take (name.length - (word.length + 1)), [c])
  | none => (name, [])

def named? (name : List Char) : Option (List Char) :=
  let (name, variant) := withoutVariant name
  (entries.lookup (String.ofList (Lowercase.ofList name))).map (·.toList ++ variant)

def colon : CodePoint := .char ':'

def isBlank : CodePoint → Bool
  | .char c => Blank.isBlank c
  | .surrogate _ => false

def endsName (c : CodePoint) : Bool := c = colon || isBlank c

/-- The name that a text after a colon starts with, and what comes after the next colon. -/
def scanName? (s : Text) : Option (Text × Text) :=
  match s.dropWhile (!endsName ·) with
  | c :: after => if c = colon then some (s.takeWhile (!endsName ·), after) else none
  | [] => none

theorem length_scanName? {s name after : Text} (h : scanName? s = some (name, after)) :
    after.length < s.length := by
  unfold scanName? at h
  have hd : (s.dropWhile (!endsName ·)).length ≤ s.length := (List.dropWhile_sublist _).length_le
  grind

/-- Puts emoji in place of their names. A name that is no emoji's stays, and its second colon begins
no other name. -/
def replace (s : Text) : Text :=
  match s with
  | [] => []
  | c :: rest =>
    if c = colon then
      match _h : scanName? rest with
      | some (name, after) =>
        match named? name.chars with
        | some emoji => Text.ofList emoji ++ replace after
        | none => c :: name ++ colon :: replace after
      | none => c :: replace rest
    else c :: replace rest
termination_by s.length
decreasing_by
  all_goals first | (have shorter := length_scanName? _h; simp_all; omega) | simp

end FieldSchema.Terminal.Markup.Emoji
