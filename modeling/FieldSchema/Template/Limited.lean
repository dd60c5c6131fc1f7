import FieldSchema.Schema.Limits
import FieldSchema.Template.Hints
import FieldSchema.Template.Placeholder

/-! Templates and hints within a limit on nested calls. -/
namespace FieldSchema

namespace Template

/-- Why there is no template. -/
inductive Failure where
  | longInteger (n : LongInteger)
  | tooDeep

def ownCalls : Field → Nat
  | .object .. | .variant .. => 2
  | _ => 1

end Template

namespace Field

def templateNesting (f : Field) : Nat := f.nestedCalls (fun _ => Template.ownCalls) false

/-- The template as text, if it can be made within the limits. -/
def templateWithin (limits : Limits) (f : Field) (layout : Json.Layout) :
    Except Template.Failure String :=
  if limits.calls < f.templateNesting then .error .tooDeep
  else (f.writtenTemplate layout).mapError .longInteger

/-- For hints one call is nested for each field on the way down. -/
def hintNesting (f : Field) : Nat := f.nestedCalls (fun _ _ => 1) false

/-- The hints as text; `none` if too many calls are nested. -/
def hintsWithin? (limits : Limits) (f : Field) : Option String :=
  if limits.calls < f.hintNesting then none else some f.hints

end Field

end FieldSchema
