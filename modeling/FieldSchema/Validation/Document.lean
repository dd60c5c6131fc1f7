import FieldSchema.Event
import FieldSchema.Json.Reader
import FieldSchema.Schema.Root
import FieldSchema.Text.Blank
import FieldSchema.Validation.Walk

/-! Validating a document. A text that is blank or cannot be read has that as its one fault;
otherwise the value it spells is walked along the schema. -/
namespace FieldSchema.Validation

inductive Finding where
  | blank
  | unreadable (text : List Char) (e : Json.ReadError)
  | mismatch (v : Violation)

def unreadableText (text : List Char) : Json.ReadError → String
  | .malformed problem rest =>
    let place := Json.Place.of text rest
    s!"Invalid JSON at line {place.line} column {place.column}: {problem.message}"
  | .tooManyDigits count => s!"Invalid JSON: {Json.tooManyDigitsMessage count}"
  | .tooDeep => "Invalid JSON: nesting is too deep"

def Finding.message (root : String) : Finding → Text
  | blank => s!"{root}: JSON text is empty"
  | unreadable text e => s!"{root}: {unreadableText text e}"
  | mismatch v => v.text

/-- Why there is no verdict. -/
inductive Failure where
  | integerTooLarge
  | unsupported (u : Unsupported)

def Failure.message : Failure → String
  | integerTooLarge => "int too large to convert to float"
  | unsupported u => u.message

structure Verdict where
  findings : Except Failure (List Finding)
  events : List Event

/-- What is told of a document: whether it is valid, and what is wrong with it. -/
structure Report where
  valid : Bool
  messages : List Text

def Verdict.report (root : String) (v : Verdict) : Except Failure Report :=
  v.findings.map fun findings => ⟨findings.isEmpty, findings.map (Finding.message root)⟩

def Rejection.event (r : Rejection) : Event :=
  ⟨.debug, r.path.text ++ s!": alternative '{r.name}' rejected with {r.count} errors"⟩

def Walk.verdict (root : String) (w : Walk) : Verdict :=
  let rejected := w.rejections.map Rejection.event
  if w.overflowed then ⟨.error .integerTooLarge, rejected⟩
  else
    let count := w.violations.length
    let total : List Event :=
      if count = 0 then [] else [⟨.debug, s!"Validation of '{root}' found {count} errors"⟩]
    ⟨.ok (w.violations.map .mismatch), rejected ++ total⟩

def checkRoot (v : Json) : Root → Verdict
  | .field f => (check ⟨f.name, []⟩ v f).verdict f.name
  | .bare _ => ⟨.error (.unsupported ⟨Datum.bareName⟩), []⟩

/-- The verdict on a document; `none` stands for one that is not there. -/
def validate (root : Root) (text : Option (List Char)) : Verdict :=
  let text := text.getD []
  if text.all Blank.isBlank then ⟨.ok [.blank], []⟩
  else
    match Json.read text with
    | .ok v => checkRoot v root
    | .error e => ⟨.ok [.unreadable text e], []⟩

end FieldSchema.Validation
