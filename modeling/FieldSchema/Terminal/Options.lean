import FieldSchema.Terminal.Arguments
import FieldSchema.Tool.Command

/-! The options and arguments that the commands declare. -/
namespace FieldSchema.Terminal

open Tool

inductive Entry where
  | help
  | version
  | grammar (on : Bool)
  | template (on : Bool)
  | hints (on : Bool)
  | directory (path : String)

def Entry.isHelp : Entry → Bool
  | help => true
  | _ => false

def helpSwitch : String × Switch Entry := ("--help", .flag .help)

def topSwitches : Switches Entry :=
  [helpSwitch, ("--version", .flag .version), ("-v", .flag .version)]

def printSwitches : Switches Entry := [
  helpSwitch,
  ("--grammar", .flag (.grammar true)), ("--no-grammar", .flag (.grammar false)),
  ("--template", .flag (.template true)), ("--no-template", .flag (.template false)),
  ("--hints", .flag (.hints true)), ("--no-hints", .flag (.hints false))]

def saveSwitches : Switches Entry :=
  [helpSwitch, ("--output-dir", .value .directory), ("-o", .value .directory)]

def switches : Verb → Switches Entry
  | .print => printSwitches
  | .save => saveSwitches
  | _ => [helpSwitch]

/-- The last entry about a part decides. -/
def showing (s : Shown) : Entry → Shown
  | .grammar on => { s with grammar := on }
  | .template on => { s with template := on }
  | .hints on => { s with hints := on }
  | _ => s

def lastDirectory (entries : List Entry) : Option String :=
  entries.foldl (fun found entry => match entry with
    | .directory path => some path
    | _ => found) none

/-- A command from its entries and its other arguments, if there are as many as it needs. -/
def command? (verb : Verb) (entries : List Entry) (others : List String) : Option Command :=
  match verb, others with
  | .list, [] => some .list
  | .settings, [] => some .settings
  | .print, [name] => some (.print name (entries.foldl showing ⟨true, true, false⟩))
  | .save, names => some (.save names (lastDirectory entries))
  | .check, [name, file] => some (.check name file)
  | _, _ => none

/-- Asking for help comes before any complaint about the arguments but unknown options. -/
def request? (verb : Verb) (args : List String) : Option Request := do
  let (entries, others) ← readArguments? (switches verb) true args
  if entries.any Entry.isHelp then return .help
  return .run (← command? verb entries others)

def verbs : List (String × Verb) :=
  [("list", .list), ("show", .print), ("export", .save), ("check", .check), ("config", .settings)]

/-- Of a request for help and one for the version the first counts. -/
def asked? : List Entry → Option Opening
  | [] => none
  | .help :: _ => some .help
  | _ :: _ => some .version

/-- A request comes before the command. A name that is no command may be an option, which `--` kept
from being read as one. -/
def opening? (args : List String) : Option Opening :=
  match readArguments? topSwitches false args with
  | some ([], name :: rest) =>
    match verbs.lookup name with
    | some verb => some (.command verb rest)
    | none =>
      (readArguments? topSwitches false (name :: rest)).bind fun (entries, _) => asked? entries
  | some (entries, _) => asked? entries
  | none => none

end FieldSchema.Terminal
