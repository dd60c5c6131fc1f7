import FieldSchema.Json.OfScalar
import FieldSchema.Json.Problem
import FieldSchema.Template.Reveal

/-! The template of a schema: a JSON text with the keys and the constants of the documents, and in
place of every other value a description of it. Below the top, a description that is not a text
itself appears as JSON text inside the one above. -/
namespace FieldSchema

namespace Template

def revealed (layout : Json.Layout) (v : Json) : List Char := reveal (v.asciiText layout)

/-- A value inside a description. -/
def inlined : Json → Text
  | .string s => s
  | v => (revealed .inline v).map .char

def span (noun unit : String) (lengths : Bounds Nat) : String :=
  s!"<{noun} of {lengths.low}–{lengths.high} {unit}>"

def joinLines (separator : Text) : List Text → Text
  | [] => []
  | [t] => t
  | t :: rest => t ++ separator ++ joinLines separator rest

mutual

def placeholder : Field → Json
  | .integer _ b => .string s!"<integer between {b.low}–{b.high}>"
  | .real _ b => .string s!"<float between {b.low.display}–{b.high.display}>"
  | .string _ lengths => .string (span "string" "characters" lengths)
  | .boolean _ => .string "<boolean: true or false>"
  | .constant _ value => value.toJson
  | .choice _ options =>
    .string ("<choice between " ++ inlined options.toJson ++ ">")
  | .template _ pattern lengths => .string (pattern.fill (span "text" "characters" lengths))
  | .object _ members => .object (memberPlaceholders members)
  | .array _ element lengths =>
    .string (s!"<array of {lengths.low}–{lengths.high} elements, each element should be: " ++
      inlined (placeholder element) ++ ">")
  | .variant _ alternatives =>
    .string ("<choose one of the following structures>\n" ++
      joinLines "\nOR\n" (alternativeTexts alternatives))
  | .optional _ inner => .string ("<optional: " ++ inlined (placeholder inner) ++ ">")

def memberPlaceholders : List Field → List (Text × Json)
  | [] => []
  | f :: rest => (Text.ofString f.name, placeholder f) :: memberPlaceholders rest

def alternativeTexts : List Field → List Text
  | [] => []
  | f :: rest => inlined (placeholder f) :: alternativeTexts rest

end

/-- An integer that has too many digits to be written. -/
structure LongInteger where
  value : Int

def LongInteger.message (_ : LongInteger) : String := Json.notWrittenMessage

end Template

namespace Field

/-- The integers that the placeholder of a field spells, apart from the fields below it. -/
def spelledIntegers : Field → List Int
  | integer _ b => [b.low, b.high]
  | string _ lengths | template _ _ lengths | array _ _ lengths => [lengths.low, lengths.high]
  | constant _ (.int n) => [n]
  | choice _ (.ints values) => values
  | _ => []

/-- The template as text, of which the integers may have any number of digits. -/
def templateText (f : Field) (layout : Json.Layout) : String :=
  String.ofList (Template.revealed layout (Template.placeholder f))

/-- The template as text, unless an integer in it has too many digits. -/
def writtenTemplate (f : Field) (layout : Json.Layout) : Except Template.LongInteger String :=
  match (f.preorder.flatMap spelledIntegers).find? fun n =>
      Json.digitLimit < (Nat.toDigits 10 n.natAbs).length with
  | some n => .error ⟨n⟩
  | none => .ok (f.templateText layout)

end Field

end FieldSchema
