import FieldSchema.Json.OfScalar
import FieldSchema.Json.Problem
import FieldSchema.Validation.Path

/-! How a value can fail to match a field, and how that is said. -/
namespace FieldSchema.Validation

inductive Mismatch where
  | typeName (expected got : String)
  | choiceType (expected got : String)
  | variantType (got : String)
  | range (value low high : Numeric)
  | stringLength (length : Nat) (lengths : Bounds Nat)
  | arrayLength (length : Nat) (lengths : Bounds Nat)
  | constant (expected : Scalar) (got : Json)
  | choice (got : Json) (options : Options)
  | pattern (pattern : Pattern)
  | generatedLength (length : Nat) (lengths : Bounds Nat)
  | missing
  | unexpected
  | noAlternative (names : List String)

structure Violation where
  path : Path
  mismatch : Mismatch

def optionText : Scalar → String
  | .int n => toString n
  | .real x => x.display
  | .text s => s

def outside (what : String) (low high : String) : String :=
  s!"{what} is outside range [{low}, {high}]"

def lengthOutside (what : String) (length : Nat) (lengths : Bounds Nat) : String :=
  outside s!"{what} length {length}" (toString lengths.low) (toString lengths.high)

def inlineAscii (v : Json) : String := String.ofList (v.asciiText .inline)

def Mismatch.text : Mismatch → Text
  | typeName expected got => s!"Expected {expected}, got {got}"
  | choiceType expected got => s!"Expected {expected} choice, got {got}"
  | variantType got => s!"Expected object for variant, got {got}"
  | range value low high => outside s!"Value {value.display}" low.display high.display
  | stringLength length lengths => lengthOutside "String" length lengths
  | arrayLength length lengths => lengthOutside "Array" length lengths
  | constant expected got =>
    s!"Expected constant value {inlineAscii expected.toJson}, got {inlineAscii got}"
  | choice got options =>
    "Value " ++ got.write .verbatim 0 ++ " is not in allowed choices: " ++
      s!"[{Display.commaList (options.scalars.map optionText)}]"
  | pattern p =>
    "Template string does not match pattern. Expected format: '" ++ p.fill "[generated text]" ++ "'"
  | generatedLength length lengths => lengthOutside "Generated portion" length lengths
  | missing => "Required field is missing"
  | unexpected => "Unexpected field"
  | noAlternative names =>
    s!"Value does not match any of the {names.length} possible variants: " ++
      s!"[{Display.commaList names}]"

def Violation.text (v : Violation) : Text := v.path.text ++ ": " ++ v.mismatch.text

end FieldSchema.Validation
