import FieldSchema.Terminal.Platform
import FieldSchema.Tool.Run

/-! The command line. A run is computed from the arguments, the environment and the files that the
arguments name; afterwards its output is printed and its files are written. -/
namespace FieldSchema.Main

open Tool

def variableNames : List String := ["OUTPUT_DIR", "LOG_LEVEL", "DEBUG", "TEMPLATE_INDENT"]

def environment : IO Environment := do
  let names := variableNames.map ("JSON_CONSTRAINTS_" ++ ·)
  (names ++ names.map String.toLower).filterMapM fun name => do
    return (← IO.getEnv name).map (name, ·)

/-- The paths that the arguments may name: an argument, or the value joined to an option. -/
def candidates (args : List String) : List String :=
  args ++ args.map (fun arg => String.ofList ((arg.toList.dropWhile (· ≠ '=')).drop 1)) ++
    args.map fun arg => String.ofList (arg.toList.drop 2)

/-- The files that are written if a path is the directory to write to. -/
def targets (p : Files.Path) : List Files.Path :=
  Gallery.catalogue.flatMap fun (name, _) =>
    [p.child (grammarFile name), p.child (templateFile name)]

def along (p : Files.Path) : List Files.Path :=
  (List.range p.parts.length).map fun n => { p with parts := p.parts.take (n + 1) }

/-- Adds what is found at a path; what is there and cannot be read is taken for a directory. Nothing
is below a file. -/
def probe (tree : Files.Tree) (p : Files.Path) : IO Files.Tree := do
  let place := p.parts.foldl Files.Tree.enter (tree.start p)
  if tree.files.any fun (file, _) => file.isPrefixOf place then return tree
  try
    let bytes ← IO.FS.readBinFile p.text
    return { tree with files := (place, bytes.toList) :: tree.files }
  catch
    | .noFileOrDirectory .. => return tree
    | _ => return { tree with directories := place :: tree.directories }

def shown (t : Text) : String := String.ofList t.chars

def printOut : Printed → IO Unit
  | .line t => IO.println (shown t)
  | .panel title text => do
    IO.println s!"== {title} =="
    IO.println text

def describe : Breakdown → String
  | .invalidSettings => "invalid settings"
  | .unknownLevel => "unknown log level"
  | .files .missing => "no such file or directory"
  | .files .exists => "the target exists and is no directory"
  | .files .isDirectory => "is a directory"
  | .files .notDirectory => "not a directory"
  | .files .tooLong => "file name too long"
  | .files .nullCharacter => "null character in a file name"
  | .markup fault => fault.message
  | .schema e => e.message
  | .grammar e => e.message
  | .validation e => e.message

def place (p : Files.Place) : String := "/" ++ "/".intercalate p

/-- Makes the directories that are new and writes the files that are new or changed. -/
def apply (before after : Files.Tree) : IO Unit := do
  for d in after.directories do
    if !before.isDirectory d then IO.FS.createDirAll (place d)
  for (p, content) in after.files do
    if before.content? p ≠ some content then
      IO.FS.writeBinFile (place p) (ByteArray.mk content.toArray)

end FieldSchema.Main

open FieldSchema FieldSchema.Main FieldSchema.Tool in
def main (args : List String) : IO UInt32 := do
  let env ← environment
  let here := Files.Path.ofString (toString (← IO.currentDir))
  let named := (candidates args).map Files.Path.ofString
  let paths := (Settings.read? Terminal.platform env).map (·.outputDir) |>.toList |>.append named
  let tree ← (paths.flatMap along ++ paths.flatMap targets).foldlM probe ⟨[], [], here.parts⟩
  let outcome := run Terminal.platform env tree args
  outcome.printed.forM printOut
  for e in outcome.events do
    IO.eprintln (shown e.line)
  apply tree outcome.tree
  if let some b := outcome.breakdown then
    IO.eprintln (describe b)
  if outcome.exitCode = 2 then
    IO.eprintln "the arguments cannot be understood"
  return UInt32.ofNat outcome.exitCode
