import FieldSchema.Schema.Field
import FieldSchema.Text.Quoted

/-! What a caller may pass where a schema is built. Such values come without a type, so that the
checks can say what is wrong with them; `display` is how their messages show them. -/
namespace FieldSchema

inductive Datum where
  | null
  | bool (b : Bool)
  | int (n : Int)
  | real (x : Binary64)
  | text (s : String)
  | list (items : List Datum)
  | field (f : Field)
  /-- A label without a kind. -/
  | bare (label : Label)

namespace Datum

instance : Coe String Datum := ⟨text⟩
instance : Coe Int Datum := ⟨int⟩
instance : Coe Field Datum := ⟨field⟩

def bareName : String := "BaseField"

def typeName : Datum → String
  | null => "NoneType"
  | bool _ => "bool"
  | int _ => "int"
  | real _ => "float"
  | text _ => "str"
  | list _ => "list"
  | field f => f.kind.name
  | bare _ => bareName

end Datum

namespace Display

def commaList (items : List String) : String := ", ".intercalate items

/-- Items in round brackets; one item alone is followed by a comma. -/
def tuple : List String → String
  | [] => "()"
  | [item] => s!"({item},)"
  | items => s!"({commaList items})"

def hint : Option String → String
  | none => "None"
  | some text => Quoted.ofString text

def scalar : Scalar → String
  | .int n => toString n
  | .real x => x.display
  | .text s => Quoted.ofString s

/-- A class with its attributes, the name and the hint before all others. -/
def record (className : String) (label : Label) (attributes : List (String × String)) : String :=
  let all := ("name", Quoted.ofString label.name) :: ("hint", hint label.hint) :: attributes
  className ++ "(" ++ commaList (all.map fun (key, value) => key ++ "=" ++ value) ++ ")"

def lengths (low high : String) (b : Bounds Nat) : List (String × String) :=
  [(low, toString b.low), (high, toString b.high)]

mutual

def field (f : Field) : String :=
  match f with
  | .integer label b => record f.kind.name label [("min", toString b.low), ("max", toString b.high)]
  | .real label b => record f.kind.name label [("min", b.low.display), ("max", b.high.display)]
  | .string label b => record f.kind.name label (lengths "min_length" "max_length" b)
  | .constant label value => record f.kind.name label [("value", scalar value)]
  | .boolean label => record f.kind.name label []
  | .choice label options =>
    record f.kind.name label [("options", tuple (options.scalars.map scalar))]
  | .object label members => record f.kind.name label [("fields", tuple (fields members))]
  | .variant label alternatives =>
    record f.kind.name label [("variants", tuple (fields alternatives))]
  | .array label element b =>
    record f.kind.name label (("element", field element) :: lengths "min_length" "max_length" b)
  | .optional label inner => record f.kind.name label [("inner", field inner)]
  | .template label pattern b =>
    record f.kind.name label (("template", Quoted.ofString pattern.text) ::
      lengths "min_gen_length" "max_gen_length" b)

def fields : List Field → List String
  | [] => []
  | f :: rest => field f :: fields rest

end

mutual

def datum : Datum → String
  | .null => "None"
  | .bool true => "True"
  | .bool false => "False"
  | .int n => toString n
  | .real x => x.display
  | .text s => Quoted.ofString s
  | .list items => s!"[{commaList (data items)}]"
  | .field f => field f
  | .bare label => record Datum.bareName label []

def data : List Datum → List String
  | [] => []
  | d :: rest => datum d :: data rest

end

end Display

def Datum.plain : Datum → String
  | .text s => s
  | d => Display.datum d

end FieldSchema
