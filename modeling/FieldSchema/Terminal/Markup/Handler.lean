import FieldSchema.Text.Blank
import FieldSchema.Text.WordCharacter
import FieldSchema.Terminal.Markup.Constant

/-! The parameters of tags that start with `@`: the name of a handler, its arguments in parentheses,
or both; or else a constant. -/
namespace FieldSchema.Terminal.Markup.Handler

def isNameChar (c : Char) : Bool := WordCharacter.isWord c || c == '.'

/-- The arguments of a call in one line. They end with the last parenthesis of the text. -/
def arguments? (s : List Char) : Option (List Char) :=
  match s.dropWhile isNameChar with
  | [] => some []
  | '(' :: rest =>
    if rest.getLast? = some ')' ∧ !rest.contains '\n' then some ('(' :: rest) else none
  | _ => none

/-- Whether parameters make sense: arguments must be constants. -/
def fits (parameters : List Char) : Bool :=
  let parameters := Blank.trim Blank.isBlank parameters
  match arguments? parameters with
  | some [] => true
  | some arguments => Constant.isConstant arguments
  | none => Constant.isConstant parameters

end FieldSchema.Terminal.Markup.Handler
