import FieldSchema.Text.Blank
import FieldSchema.Text.Lowercase
import FieldSchema.Terminal.Markup.Color

/-! Styles of console text. A definition is a row of words, in which the last one about an attribute
or a color counts; the text of a style is the one definition that stands for all of the same effect.
-/
namespace FieldSchema.Terminal.Markup

structure Style where
  /-- The attributes set, the latest first, and whether they are on. -/
  attributes : List (String × Bool)
  color : Option (List Char)
  background : Option (List Char)
  link : Option (List Char)

namespace Style

def plain : Style := ⟨[], none, none, none⟩

/-- The names of the attributes in the order in which a style lists them. -/
def attributeNames : List String := [
  "bold", "dim", "italic", "underline", "blink", "blink2", "reverse", "conceal", "strike",
  "underline2", "frame", "encircle", "overline"]

def abbreviations : List (String × String) := [
  ("b", "bold"), ("d", "dim"), ("i", "italic"), ("u", "underline"), ("r", "reverse"),
  ("c", "conceal"), ("s", "strike"), ("uu", "underline2"), ("o", "overline")]

def attribute? (word : List Char) : Option String :=
  let word := String.ofList word
  if attributeNames.contains word then some word else abbreviations.lookup word

def set (s : Style) (name : String) (on : Bool) : Style :=
  { s with attributes := (name, on) :: s.attributes }

/-- Adds what the words say; `none` if they do not make sense. A link is kept as it is written and a
color in small letters; an attribute after `not` must be in small letters. -/
def extend? (s : Style) : List (List Char) → Except Error (Option Style)
  | [] => .ok (some s)
  | spelled :: rest =>
    let word := Lowercase.ofList spelled
    if word = "on".toList then
      match rest with
      | [] => .ok none
      | color :: rest => do
        let color := Lowercase.ofList color
        if ← Color.isColor color then extend? { s with background := some color } rest
        else return none
    else if word = "not".toList then
      match rest with
      | [] => .ok none
      | negated :: rest =>
        match attribute? negated with
        | some name => extend? (s.set name false) rest
        | none => .ok none
    else if word = "link".toList then
      match rest with
      | [] => .ok none
      | link :: rest => extend? { s with link := some link } rest
    else
      match attribute? word with
      | some name => extend? (s.set name true) rest
      | none => do
        if ← Color.isColor word then extend? { s with color := some word } rest else return none

def splitWords : List Char → List (List Char)
  | [] => []
  | c :: rest =>
    if Blank.isBlank c then splitWords rest
    else match rest with
      | [] => [[c]]
      | d :: _ =>
        if Blank.isBlank d then [c] :: splitWords rest
        else match splitWords rest with
          | word :: words => (c :: word) :: words
          | [] => [[c]]

/-- The style that a definition describes, if it describes one. -/
def read? (definition : List Char) : Except Error (Option Style) :=
  let words := splitWords definition
  if words = ["none".toList] then .ok (some plain) else plain.extend? words

def words (s : Style) : List (List Char) :=
  let attributes := attributeNames.flatMap fun name =>
    match s.attributes.lookup name with
    | some true => [name.toList]
    | some false => ["not".toList, name.toList]
    | none => []
  attributes ++ s.color.toList ++ (s.background.toList.flatMap fun color => ["on".toList, color]) ++
    s.link.toList.flatMap fun link => ["link".toList, link]

def text (s : Style) : List Char :=
  if s.words = [] then "none".toList else [' '].intercalate s.words

/-- The text that all definitions of the same style share; what defines no style stands for itself
in small letters. -/
def normalize (definition : List Char) : Except Error (List Char) := do
  match ← read? definition with
  | some style => return style.text
  | none => return Lowercase.ofList (Blank.trim Blank.isBlank definition)

end Style
end FieldSchema.Terminal.Markup
