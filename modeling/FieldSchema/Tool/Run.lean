import FieldSchema.Files.Tree
import FieldSchema.Gallery
import FieldSchema.Grammar.Compile
import FieldSchema.Template.Hints
import FieldSchema.Template.Placeholder
import FieldSchema.Text.Utf8
import FieldSchema.Tool.Settings
import FieldSchema.Validation.Document

/-! A run of the tool: from its arguments, the environment and the files to what it prints, the
files it leaves, the events it reports and its exit code. -/
namespace FieldSchema.Tool

inductive Printed where
  | line (t : Text)
  | panel (title : String) (text : String)

/-- What ends a run in disorder. -/
inductive Breakdown where
  | invalidSettings
  | unknownLevel
  | files (fault : Files.Fault)
  | markup (fault : MarkupFault)
  | schema (e : SchemaError)
  | grammar (e : Grammar.GrammarError)
  | validation (e : Validation.Failure)

inductive Stop where
  | exit (code : Nat)
  | breakdown (b : Breakdown)

structure State where
  tree : Files.Tree
  printed : List Printed
  events : List Event

/-- A step of a run; what was done before it stops stays done. -/
abbrev Action := ExceptT Stop (StateM State)

namespace Action

def stop {α : Type} (s : Stop) : Action α := throw s

def fail {α : Type} (b : Breakdown) : Action α := throw (.breakdown b)

def put (p : Printed) : Action Unit := modify fun s => { s with printed := s.printed ++ [p] }

def report (events : List Event) : Action Unit :=
  modify fun s => { s with events := s.events ++ events }

def printMarkup (p : Platform) (markup : Text) : Action Unit :=
  match p.shown markup with
  | .ok t => put (.line t)
  | .error fault => fail (.markup fault)

def printError (p : Platform) (t : Text) : Action Unit := printMarkup p (p.styled "red" t)

def onFiles {α : Type} (r : Except Files.Fault α) : Action α :=
  match r with
  | .ok a => return a
  | .error fault => fail (.files fault)

def changeFiles (f : Files.Tree → Except Files.Fault Files.Tree) : Action Unit := do
  let tree ← onFiles (f (← get).tree)
  modify fun s => { s with tree := tree }

end Action

open Tool.Action

def versionText : String := "json-constraints version 0.1.0"

section Commands

variable (p : Platform)

def findSchema (name : String) : Action Field :=
  match Gallery.catalogue.lookup name with
  | some (.ok f) => return f
  | some (.error e) => fail (.schema e)
  | none => do
    let names := ", ".intercalate (Gallery.catalogue.map (·.1))
    printError p s!"Unknown schema '{name}'. Available: {names}"
    stop (.exit 1)

def compileGrammar (f : Field) : Action String :=
  match f.grammar with
  | .ok g => do
    report [⟨.debug, g.note f⟩]
    return g.text
  | .error e => fail (.grammar e)

def templateOf (f : Field) (settings : Settings) : String :=
  f.templateText (.indented (List.replicate settings.templateIndent ' '))

def runList : Action Unit :=
  Gallery.catalogue.forM fun (name, built) =>
    match built with
    | .ok f => printMarkup p s!"[bold]{name}[/bold]  ({f.preorder.length - 1} fields)"
    | .error e => fail (.schema e)

def withoutBlankEnd (s : String) : String := String.ofList (Blank.trimEnd Blank.isBlank s.toList)

def grammarFile (name : String) : String := s!"{name}.gbnf"

def templateFile (name : String) : String := s!"{name}_template.json"

def runPrint (settings : Settings) (name : String) (shown : Shown) : Action Unit := do
  let f ← findSchema p name
  if shown.grammar then
    put (.panel (grammarFile name) (withoutBlankEnd (← compileGrammar f)))
  if shown.template then
    put (.panel (templateFile name) (templateOf f settings))
  if shown.hints then
    put (.panel "Hints" (if f.hints = "" then "(no hints)" else f.hints))

def saveFile (path : Files.Path) (text what : String) : Action Unit := do
  changeFiles fun t => t.write path (.ofString text)
  report [⟨.info, s!"Wrote {what} to {path.text}"⟩]

def saveSchema (settings : Settings) (target : Files.Path) (name : String) : Action Unit := do
  let f ← findSchema p name
  saveFile (target.child (grammarFile name)) (← compileGrammar f) s!"grammar for '{f.name}'"
  saveFile (target.child (templateFile name)) (templateOf f settings)
    s!"template for '{f.name}'"
  printMarkup p s!"Generated {grammarFile name} and {templateFile name}"

def runSave (settings : Settings) (names : List String) (directory : Option String) :
    Action Unit := do
  let target := (directory.map Files.Path.ofString).getD settings.outputDir
  changeFiles (·.makeDirectory target)
  let names := if names = [] then Gallery.catalogue.map (·.1) else names
  names.forM (saveSchema p settings target)
  printMarkup p s!"\nFiles saved to: {target.text}"

/-- A usage error: nothing is printed but a complaint about the arguments. -/
def usage {α : Type} : Action α := stop (.exit 2)

def runCheck (name file : String) : Action Unit := do
  let path := Files.Path.ofString file
  unless (← onFiles ((← get).tree.leadsSomewhere path)) do usage
  let f ← findSchema p name
  let bytes ← onFiles ((← get).tree.read path)
  match Utf8.decode bytes with
  | .error e =>
    printError p s!"Cannot read {path.text} as UTF-8: {e.message}"
    stop (.exit 1)
  | .ok text =>
    let verdict := Validation.validate (.field f) (some (Utf8.normalizeNewlines text))
    report verdict.events
    match verdict.findings with
    | .error e => fail (.validation e)
    | .ok [] => printMarkup p (p.styled "green" s!"Valid {name}: {path.text}")
    | .ok findings => do
      printError p s!"{path.text} does not match {name}:"
      findings.forM fun finding => printError p ("  " ++ finding.message f.name)
      stop (.exit 1)

def runSettings (settings : Settings) : Action Unit := do
  printMarkup p "[bold]Settings:[/bold]"
  printMarkup p s!"  Output directory: {settings.outputDir.text}"
  printMarkup p s!"  Log level: {settings.logLevel}"
  printMarkup p (if settings.debug then "  Debug: True" else "  Debug: False")
  printMarkup p s!"  Template indent: {settings.templateIndent}"

def Command.run (settings : Settings) : Command → Action Unit
  | .list => runList p
  | .print name shown => runPrint p settings name shown
  | .save names directory => runSave p settings names directory
  | .check name file => runCheck p name file
  | .settings => runSettings p settings

/-- Reads the settings and fixes the log level; a level without a name is a breakdown. -/
def prepare (env : Environment) : Action Settings :=
  match Settings.read? p env with
  | none => fail .invalidSettings
  | some settings =>
    if settings.threshold?.isSome then return settings else fail .unknownLevel

def showVersion : Action Unit := do
  printMarkup p versionText
  stop (.exit 0)

/-- The settings are read after the name of the command is known and before its own arguments. -/
def runArguments (env : Environment) (args : List String) : Action Unit :=
  match p.opening? args with
  | none => usage
  | some .help => stop (.exit 0)
  | some .version => showVersion p
  | some (.command verb args) => do
    let settings ← prepare p env
    match p.request? verb args with
    | none => usage
    | some .help => stop (.exit 0)
    | some (.run command) => command.run p settings

structure Outcome where
  exitCode : Nat
  printed : List Printed
  tree : Files.Tree
  /-- The events that the log level lets through. -/
  events : List Event
  breakdown : Option Breakdown

def admittedEvents (env : Environment) (events : List Event) : List Event :=
  match (Settings.read? p env).bind Settings.threshold? with
  | some threshold => events.filter fun e => threshold ≤ e.level.severity
  | none => []

def run (env : Environment) (tree : Files.Tree) (args : List String) : Outcome :=
  let (result, state) := (runArguments p env args).run.run ⟨tree, [], []⟩
  let (code, breakdown) := match result with
    | .ok () => (0, none)
    | .error (.exit code) => (code, none)
    | .error (.breakdown b) => (1, some b)
  ⟨code, state.printed, state.tree, admittedEvents p env state.events, breakdown⟩

end Commands

end FieldSchema.Tool
