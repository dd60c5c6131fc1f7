import FieldSchema.Text.CodePoint
import FieldSchema.Tool.Command

/-! What a run takes from the libraries around it: how arguments and variables are read, and what a
console shows of markup. -/
namespace FieldSchema.Tool

abbrev Environment := List (String × String)

/-- Why markup cannot be shown. -/
structure MarkupFault where
  name : String
  message : String

structure Platform where
  /-- Reads the arguments up to the name of the command; `none` if they are misused. -/
  opening? : List String → Option Opening
  /-- Reads the arguments of a command. -/
  request? : Verb → List String → Option Request
  /-- The value of a variable, whatever the case of its name. -/
  valueOf? : Environment → String → Option String
  bool? : String → Option Bool
  int? : String → Option Int
  /-- The text that a console shows of markup. -/
  shown : Text → Except MarkupFault Text
  /-- Markup that shows a text as it is. -/
  escape : Text → Text

namespace Platform

/-- Some text in a style. -/
def styled (p : Platform) (style : String) (s : Text) : Text :=
  s!"[{style}]" ++ p.escape s ++ s!"[/{style}]"

def commandOf? (p : Platform) (args : List String) : Option Command :=
  match p.opening? args with
  | some (.command verb args) =>
    match p.request? verb args with
    | some (.run c) => some c
    | _ => none
  | _ => none

/-- Markup is made of tags in square brackets; without any it shows. -/
structure Documented (p : Platform) : Prop where
  shows : ∀ {t : Text}, .char '[' ∉ t → ∃ shown, p.shown t = .ok shown

end Platform

end FieldSchema.Tool
