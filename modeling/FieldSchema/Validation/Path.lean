import FieldSchema.Text.CodePoint

/-! Where a value stands in a document: the name of the root and the way down from it. -/
namespace FieldSchema.Validation

inductive Step where
  | member (key : Text)
  | item (index : Nat)
deriving DecidableEq

structure Path where
  root : String
  steps : List Step
deriving DecidableEq

namespace Path

def member (p : Path) (key : Text) : Path := { p with steps := p.steps ++ [.member key] }

def item (p : Path) (index : Nat) : Path := { p with steps := p.steps ++ [.item index] }

def stepText : Step → Text
  | .member key => "." ++ key
  | .item index => s!"[{index}]"

def text (p : Path) : Text := p.root ++ p.steps.flatMap stepText

end Path
end FieldSchema.Validation
