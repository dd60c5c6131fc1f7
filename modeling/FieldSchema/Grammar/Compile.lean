import FieldSchema.Grammar.DigitRange
import FieldSchema.Grammar.RuleName
import FieldSchema.Grammar.RuleSet
import FieldSchema.Json.OfScalar
import FieldSchema.Json.Problem

/-! The grammar of a schema: the texts of the documents that a decoder may write. The tree is
compiled from the leaves up, so a rule refers to earlier rules only. Inside an object an optional
member is a group with a comma of its own; anywhere else an absent value is written `null`. -/
namespace FieldSchema.Grammar

/-- A literal cannot hold a control character, and an integer of too many digits is not written. -/
inductive GrammarError where
  | controlCharacter (text : String)
  | tooManyDigits

def GrammarError.message : GrammarError → String
  | controlCharacter text =>
    s!"Control characters are not allowed in grammar literals: {Quoted.ofString text}"
  | tooManyDigits => Json.notWrittenMessage

def literal (s : String) : Except GrammarError Item :=
  if isClean s then .ok (.text s) else .error (.controlCharacter s)

def checkDigits (n : Int) : Except GrammarError Unit :=
  if Json.digitLimit < digitCount n.natAbs then .error .tooManyDigits else .ok ()

def scalarLiteral (v : Scalar) : Except GrammarError Item :=
  match v with
  | .int n => do
    checkDigits n
    literal v.toJson.text
  | _ => literal v.toJson.text

def checkBounds (b : Bounds Int) : Except GrammarError Unit := do
  checkDigits b.low
  checkDigits b.high

abbrev Rules := RuleSet Production

/-- Fields of these kinds share a rule with all fields of the same kind and bounds. -/
def sharedName? : Field → Option String
  | .integer _ b => some (boundsName "integer" b.low b.high)
  | .real _ b => some (boundsName "float" b.low b.high)
  | .string _ b => some s!"string-{b.low}-{b.high}"
  | .boolean _ => some "boolean"
  | _ => none

/-- The name of a rule for a field that matches `p`, and the rules with it. -/
def Rules.request (f : Field) (p : Production) (r : Rules) : String × Rules :=
  match sharedName? f with
  | some name => r.shared name p
  | none => r.add (ruleName f.name) p

/-- Asks for rules; the result of a field is the name of the rule that matches it. What has been
asked for stays in the state, also where the compilation fails. -/
abbrev Emit (σ : Type) := ExceptT GrammarError (StateM σ)

def comma : Item := .text ","

/-- A member of an object as a sequence of items, and whether it may be absent. -/
structure Part where
  sequence : Sequence
  optional : Bool

def followers (parts : List Part) : Sequence :=
  parts.flatMap fun m =>
    if m.optional then [.optional [comma :: m.sequence]] else comma :: m.sequence

/-- If every member may be absent: one alternative for each member that may come first. -/
def anyFirst : List Part → Production
  | [] => []
  | m :: rest => (m.sequence ++ followers rest) :: anyFirst rest

/-- Members up to the first required one bring the comma after them, all later ones the comma
before. -/
def objectBody (parts : List Part) : Sequence :=
  match parts.dropWhile (·.optional) with
  | [] => if parts.isEmpty then [] else [.optional (anyFirst parts)]
  | anchor :: later =>
    ((parts.takeWhile (·.optional)).map fun m => .optional [m.sequence ++ [comma]]) ++
      anchor.sequence ++ followers later

/-- A member of an object: its key with the rule of its value, and whether it may be absent. -/
structure Member where
  key : String
  value : String
  optional : Bool

def Member.part (m : Member) : Part where
  sequence := [.text ((Json.string m.key).text ++ ":"), .ref m.value]
  optional := m.optional

def arrayBody (element : Item) (lengths : Bounds Nat) : Sequence :=
  let more := Item.optional [[comma, element]]
  if lengths.high = 0 then []
  else if lengths.low = 0 then [.optional [element :: List.replicate (lengths.high - 1) more]]
  else
    (List.replicate lengths.low element).intersperse comma ++
      List.replicate (lengths.high - lengths.low) more

def stringBody (lengths : Bounds Nat) : Sequence := between .stringChar lengths.low lengths.high

variable {σ : Type} (ask : Field → Production → σ → String × σ)

def emit (f : Field) (p : Production) : Emit σ String := modifyGet (ask f p)

mutual

def compileField (f : Field) : Emit σ String :=
  match f with
  | .integer _ b => do
    ExceptT.mk (pure (checkBounds b))
    emit ask f (integerRange b.low b.high)
  | .real _ b => emit ask f (decimalRange b)
  | .string _ b => emit ask f [.text "\"" :: stringBody b ++ [.text "\""]]
  | .boolean _ => emit ask f [[.text "true"], [.text "false"]]
  | .constant _ value => do
    let item ← ExceptT.mk (pure (scalarLiteral value))
    emit ask f [[item]]
  | .choice _ options => do
    let items ← ExceptT.mk (pure (options.scalars.mapM scalarLiteral))
    emit ask f (items.map ([·]))
  | .template _ pattern b =>
    emit ask f [.text ("\"" ++ Json.Escape.string pattern.before) :: stringBody b ++
      [.text (Json.Escape.string pattern.after ++ "\"")]]
  | .object _ members => do
    let body := objectBody ((← compileMembers members).map Member.part)
    emit ask f [.text "\x7b" :: body ++ [.text "\x7d"]]
  | .variant _ alternatives => do
    let names ← compileAll alternatives
    emit ask f (names.map fun name => [.ref name])
  | .array _ element b => do
    let name ← compileField element
    emit ask f [.text "[" :: arrayBody (.ref name) b ++ [.text "]"]]
  | .optional _ inner => do
    let name ← compileField inner
    emit ask f [[.ref name], [.text "null"]]

def compileMembers : List Field → Emit σ (List Member)
  | [] => return []
  | .optional label inner :: rest => do
    let value ← compileField inner
    return ⟨label.name, value, true⟩ :: (← compileMembers rest)
  | f :: rest => do
    let value ← compileField f
    return ⟨f.name, value, false⟩ :: (← compileMembers rest)

def compileAll : List Field → Emit σ (List String)
  | [] => return []
  | f :: rest => do
    let name ← compileField f
    return name :: (← compileAll rest)

end

/-- A whole grammar: the rule that every document matches, and the rules. -/
structure Compiled where
  top : String
  rules : Rules

namespace Compiled

def text (g : Compiled) : String :=
  String.join ((s!"root ::= {g.top}" :: g.rules.lines Production.render).map (· ++ "\n"))

def note (g : Compiled) (f : Field) : String :=
  s!"Compiled grammar for '{f.name}': {g.rules.size} rules, {g.rules.reused} shared references"

end Compiled
end Grammar

def Field.grammar (f : Field) : Except Grammar.GrammarError Grammar.Compiled :=
  match (Grammar.compileField Grammar.Rules.request f).run .empty with
  | (.ok top, rules) => .ok ⟨top, rules⟩
  | (.error e, _) => .error e

end FieldSchema
