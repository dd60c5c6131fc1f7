import FieldSchema.Json.Escape
import FieldSchema.Json.Value
import FieldSchema.Number.Shortest

/-! JSON values as text. A style fixes the alphabet of the text and how a string spells its code
points; a layout puts everything on one line or each item on a line of its own. -/
namespace FieldSchema.Json

inductive Layout where
  | inline
  | indented (unit : List Char)

namespace Layout

/-- What stands between an opening bracket and the first item, or before a closing one. -/
def lineBreak (depth : Nat) : Layout → List Char
  | inline => []
  | indented unit => '\n' :: (List.replicate depth unit).flatten

def separator (depth : Nat) (layout : Layout) : List Char :=
  match layout with
  | inline => [',', ' ']
  | indented _ => ',' :: layout.lineBreak depth

end Layout

structure Style (α : Type) where
  embed : Char → α
  spell : CodePoint → List α
  layout : Layout := .inline

namespace Style

/-- Every code point beyond ASCII is escaped. -/
def ascii (layout : Layout) : Style Char := ⟨id, Escape.ascii, layout⟩

/-- Every code point that needs no escape stands for itself. -/
def verbatim : Style CodePoint where
  embed := .char
  spell
    | .char c => (Escape.verbatim c).map .char
    | p => [p]

/-- As `verbatim`, in characters only: a lone surrogate stays an escape. -/
def characters : Style Char where
  embed := id
  spell
    | .char c => Escape.verbatim c
    | p => Escape.ascii p

variable {α : Type} (style : Style α)

def put (s : List Char) : List α := s.map style.embed

def quoted (s : Text) : List α := style.embed '"' :: s.flatMap style.spell ++ [style.embed '"']

end Style

def realText : Binary64 → List Char
  | .finite x => x.text
  | .infinite false => "Infinity".toList
  | .infinite true => "-Infinity".toList
  | .nan => "NaN".toList

variable {α : Type} (style : Style α)

mutual

def write (depth : Nat) : Json → List α
  | null => style.put "null".toList
  | bool true => style.put "true".toList
  | bool false => style.put "false".toList
  | int n => style.put (toString n).toList
  | real x => style.put (realText x)
  | string s => style.quoted s
  | array [] => style.put "[]".toList
  | array items =>
    style.put ('[' :: style.layout.lineBreak (depth + 1)) ++ writeItems (depth + 1) items ++
      style.put (style.layout.lineBreak depth ++ [']'])
  | object [] => style.put ['\x7b', '\x7d']
  | object members =>
    style.put ('\x7b' :: style.layout.lineBreak (depth + 1)) ++ writeMembers (depth + 1) members ++
      style.put (style.layout.lineBreak depth ++ ['\x7d'])

def writeItems (depth : Nat) : List Json → List α
  | [] => []
  | [item] => write depth item
  | item :: rest =>
    write depth item ++ style.put (style.layout.separator depth) ++ writeItems depth rest

def writeMembers (depth : Nat) : List (Text × Json) → List α
  | [] => []
  | [(key, value)] => style.quoted key ++ style.put [':', ' '] ++ write depth value
  | (key, value) :: rest =>
    style.quoted key ++ style.put [':', ' '] ++ write depth value ++
      style.put (style.layout.separator depth) ++ writeMembers depth rest

end

def asciiText (layout : Layout) (v : Json) : List Char := v.write (.ascii layout) 0

/-- The text of a value on one line, with every character that needs no escape as itself. -/
def text (v : Json) : String := String.ofList (v.write .characters 0)

end FieldSchema.Json
