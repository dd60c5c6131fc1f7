import FieldSchema.Schema.Datum

/-! What can stand at the top of a schema: a field, or a label alone, which has a name and perhaps a
hint but describes no value. -/
namespace FieldSchema

inductive Root where
  | field (f : Field)
  | bare (label : Label)

/-- A value that describes nothing, called by its type. -/
structure Unsupported where
  typeName : String

def Unsupported.message (u : Unsupported) : String := s!"Unsupported field type: {u.typeName}"

namespace Root

def label : Root → Label
  | field f => f.label
  | bare label => label

def name (r : Root) : String := r.label.name

def field? : Root → Except Unsupported Field
  | field f => .ok f
  | bare _ => .error ⟨Datum.bareName⟩

end Root

def Datum.root? : Datum → Except Unsupported Root
  | .field f => .ok (.field f)
  | .bare label => .ok (.bare label)
  | d => .error ⟨d.typeName⟩

end FieldSchema
