import FieldSchema.Files.Path
import FieldSchema.Text.Uppercase
import FieldSchema.Tool.Platform

/-! The settings of the command line, read from environment variables. -/
namespace FieldSchema.Tool

structure Settings where
  outputDir : Files.Path
  logLevel : String
  debug : Bool
  templateIndent : Nat

namespace Settings

def maxIndent : Nat := 8

variable (p : Platform)

/-- The value of a setting: a default, or what its variable says. -/
def value? {α : Type} (env : Environment) (name : String) (default : α)
    (read? : String → Option α) : Option α :=
  match p.valueOf? env ("JSON_CONSTRAINTS_" ++ name) with
  | some s => read? s
  | none => some default

/-- The settings in an environment; `none` if a variable has no value of its type. -/
def read? (env : Environment) : Option Settings := do
  let outputDir ← value? p env "output_dir" (.ofString "JsonConstraintExamples")
    fun s => some (Files.Path.ofString s)
  let logLevel ← value? p env "log_level" "WARNING" some
  let debug ← value? p env "debug" false p.bool?
  let indent ← value? p env "template_indent" 2 p.int?
  if indent < 0 ∨ maxIndent < indent then none
  else return ⟨outputDir, logLevel, debug, indent.toNat⟩

/-- The log level in force: a request for debug output overrides the one that was set. -/
def effectiveLevel (s : Settings) : String :=
  if s.debug then "DEBUG" else Uppercase.ofString s.logLevel

end Settings

def thresholds : List (String × Nat) := [
  ("CRITICAL", 50), ("FATAL", 50), ("ERROR", 40), ("WARN", 30), ("WARNING", 30), ("INFO", 20),
  ("DEBUG", 10), ("NOTSET", 0)]

def Settings.threshold? (s : Settings) : Option Nat := thresholds.lookup s.effectiveLevel

end FieldSchema.Tool
