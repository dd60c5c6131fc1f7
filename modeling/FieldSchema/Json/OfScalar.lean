import FieldSchema.Json.Written
import FieldSchema.Schema.Datum

/-! Schema data as JSON values, and JSON numbers as numbers. -/
namespace FieldSchema

def Scalar.toJson : Scalar → Json
  | int n => .int n
  | real x => .real x
  | text s => .string s

def Options.toJson (o : Options) : Json := .array (o.scalars.map Scalar.toJson)

def Json.numeric? : Json → Option Numeric
  | .int n => some n
  | .real x => some x
  | _ => none

namespace Datum

mutual

def toJson? : Datum → Option Json
  | null => some .null
  | bool b => some (.bool b)
  | int n => some (.int n)
  | real x => some (.real x)
  | text s => some (.string s)
  | list items => (itemsToJson? items).map .array
  | field _ | bare _ => none

def itemsToJson? : List Datum → Option (List Json)
  | [] => some []
  | d :: rest =>
    match toJson? d, itemsToJson? rest with
    | some v, some vs => some (v :: vs)
    | _, _ => none

end

end Datum
end FieldSchema
