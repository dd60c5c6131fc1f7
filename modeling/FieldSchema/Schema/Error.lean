import FieldSchema.Schema.Datum

/-! Why a field cannot be built, and what a message says about it. -/
namespace FieldSchema

inductive SchemaError where
  | nameNotText (got : Datum)
  | nameWithControl (name : String)
  | hintNotText (name : String)
  | boundsNotIntegers (name : String)
  | boundsNotNumbers (name : String)
  | boundsNotFinite (name : String)
  | boundsReversed (kind : Kind) (name : String) (low high : Numeric)
  | lengthsNotIntegers (kind : Kind) (name : String)
  | lengthNegative (kind : Kind) (name : String)
  | lengthsReversed (kind : Kind) (name : String) (low high : Int)
  | constantOfType (name typeName : String)
  | constantNotFinite (name : String)
  | noOptions (name : String)
  | mixedOptions (name : String)
  | optionsNotFinite (name : String)
  | repeatedOption (name : String)
  | memberNotField (name : String) (got : Datum)
  | repeatedMember (name member : String)
  | noAlternatives (name : String)
  | alternativeOfType (name typeName : String)
  | elementNotField (name : String)
  | innerNotField (name : String)
  | patternNotText (name : String)
  | marksInPattern (name : String) (count : Nat)
  | patternWithControl (name : String)
  | integerTooLarge

namespace SchemaError

def about (kind : Kind) (name : String) : String := s!"{kind.name} '{name}'"

def message : SchemaError → String
  | nameNotText got => s!"Field name must be a non-empty string, got {Display.datum got}"
  | nameWithControl name => s!"Field name {Quoted.ofString name} contains control characters"
  | hintNotText name => s!"Hint for '{name}' must be a string"
  | boundsNotIntegers name => s!"{about .integer name} bounds must be integers"
  | boundsNotNumbers name => s!"{about .real name} bounds must be numbers"
  | boundsNotFinite name => s!"{about .real name} bounds must be finite"
  | boundsReversed kind name low high =>
    s!"{about kind name}: min {low.display} is greater than max {high.display}"
  | lengthsNotIntegers kind name => s!"{about kind name} length bounds must be integers"
  | lengthNegative kind name => s!"{about kind name}: minimum length cannot be negative"
  | lengthsReversed kind name low high =>
    s!"{about kind name}: minimum length {low} is greater than maximum length {high}"
  | constantOfType name typeName =>
    s!"{about .constant name} value must be int, float or str, got {typeName}"
  | constantNotFinite name => s!"{about .constant name} value must be finite"
  | noOptions name => s!"{about .choice name} needs at least one option"
  | mixedOptions name =>
    s!"{about .choice name} options must all be ints, all floats or all strings"
  | optionsNotFinite name => s!"{about .choice name} options must be finite"
  | repeatedOption name => s!"{about .choice name} options must be unique"
  | memberNotField name got => s!"{about .object name} child {Display.datum got} is not a field"
  | repeatedMember name member => s!"{about .object name} has duplicate child name '{member}'"
  | noAlternatives name => s!"{about .variant name} needs at least one alternative"
  | alternativeOfType name typeName =>
    s!"{about .variant name} alternatives must be {Kind.object.name}s, got {typeName}"
  | elementNotField name => s!"{about .array name} element must be a field"
  | innerNotField name => s!"{about .optional name} inner must be a field"
  | patternNotText name => s!"{about .template name} template must be a string"
  | marksInPattern name count =>
    s!"{about .template name} template must contain {generatedMark} exactly once, found {count}"
  | patternWithControl name => s!"{about .template name} template contains control characters"
  | integerTooLarge => "int too large to convert to float"

end SchemaError
end FieldSchema
