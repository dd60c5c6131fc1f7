/-! Reading command-line arguments: options in long form or in bundles of letters, a value after an
option or joined to it, and `--` before arguments that are no options. -/
namespace FieldSchema.Terminal

/-- What an option contributes: a fixed entry, or one made from the value given with it. -/
inductive Switch (α : Type) where
  | flag (entry : α)
  | value (entry : String → α)

/-- The options of a command, by their spellings. -/
abbrev Switches (α : Type) := List (String × Switch α)

variable {α : Type}

/-- A bundle of one-letter options: the entries, and the option at its end that still needs a value
from the next argument. A value may follow its letter in the bundle. -/
def readBundle? (switches : Switches α) : List Char → Option (List α × Option (String → α))
  | [] => some ([], none)
  | c :: rest =>
    match switches.lookup (String.ofList ['-', c]) with
    | some (.flag entry) =>
      (readBundle? switches rest).map fun (entries, open?) => (entry :: entries, open?)
    | some (.value entry) =>
      if rest = [] then some ([], some entry) else some ([entry (String.ofList rest)], none)
    | none => none

def readSwitch? (switches : Switches α) (arg : List Char) :
    Option (List α × Option (String → α)) :=
  match arg with
  | '-' :: '-' :: _ =>
    let name := String.ofList (arg.takeWhile (· ≠ '='))
    match switches.lookup name, arg.dropWhile (· ≠ '=') with
    | some (.flag entry), [] => some ([entry], none)
    | some (.value entry), [] => some ([], some entry)
    | some (.value entry), _ :: given => some ([entry (String.ofList given)], none)
    | _, _ => none
  | _ => readBundle? switches (arg.drop 1)

def isSwitch (arg : List Char) : Bool :=
  match arg with
  | '-' :: _ :: _ => true
  | _ => false

/-- The entries of the options and the other arguments. Unless options may be mixed with these, the
first of them ends the options. -/
def readArguments? (switches : Switches α) (mixed : Bool) :
    List String → Option (List α × List String)
  | [] => some ([], [])
  | arg :: rest =>
    if arg = "--" then some ([], rest)
    else if isSwitch arg.toList then
      match readSwitch? switches arg.toList, rest with
      | some (entries, none), rest =>
        (readArguments? switches mixed rest).map fun (more, others) => (entries ++ more, others)
      | some (entries, some entry), given :: rest =>
        (readArguments? switches mixed rest).map fun (more, others) =>
          (entries ++ entry given :: more, others)
      | some (_, some _), [] => none
      | none, _ => none
    else if mixed then
      (readArguments? switches mixed rest).map fun (entries, others) => (entries, arg :: others)
    else some ([], arg :: rest)

end FieldSchema.Terminal
