import FieldSchema.Text.CodePoint

/-! What the library reports while it works, apart from its results. -/
namespace FieldSchema

inductive Level where
  | debug
  | info
deriving DecidableEq

def Level.name : Level → String
  | debug => "DEBUG"
  | info => "INFO"

def Level.severity : Level → Nat
  | debug => 10
  | info => 20

structure Event where
  level : Level
  message : Text

def Event.line (e : Event) : Text := s!"{e.level.name} " ++ e.message

end FieldSchema
