/-! Why markup cannot be shown. -/
namespace FieldSchema.Terminal.Markup

inductive Error where
  /-- A closing tag that closes no open one. -/
  | nothingToClose
  /-- The parameters of a handler are no constants. -/
  | parameters
  /-- A component of a color is no number, or one with too many digits. -/
  | colorComponent
deriving DecidableEq

def Error.name : Error → String
  | colorComponent => "ValueError"
  | _ => "MarkupError"

def Error.message : Error → String
  | nothingToClose => "closing tag without an opening one"
  | parameters => "the parameters of a handler are no constants"
  | colorComponent => "a component of a color is no number"

end FieldSchema.Terminal.Markup
