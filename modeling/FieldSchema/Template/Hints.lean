import FieldSchema.Schema.Root

/-! The hints of a schema, one line for each field that has one. A line names the field by its path;
`[]` stands for any item of an array. -/
namespace FieldSchema

namespace Hints

def line (label : Label) (path : String) : List String :=
  match label.hint with
  | some hint => if hint = "" then [] else [s!"- {path}: {hint}"]
  | none => []

mutual

def lines (path : String) (f : Field) : List String :=
  line f.label path ++
    match f with
    | .object _ members => memberLines path members
    | .variant _ alternatives => alternativeLines path alternatives
    | .array _ element _ => lines (path ++ "[]") element
    | .optional _ inner => lines path inner
    | _ => []

def memberLines (path : String) : List Field → List String
  | [] => []
  | f :: rest => lines s!"{path}.{f.name}" f ++ memberLines path rest

def alternativeLines (path : String) : List Field → List String
  | [] => []
  | f :: rest => lines path f ++ alternativeLines path rest

end

end Hints

def Field.hints (f : Field) : String := "\n".intercalate (Hints.lines f.name f)

def Root.hints : Root → String
  | field f => f.hints
  | bare label => "\n".intercalate (Hints.line label label.name)

end FieldSchema
