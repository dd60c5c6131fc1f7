/-! The commands of the tool, and what the arguments of a run may ask for. -/
namespace FieldSchema.Tool

/-- What a run shows of a schema. -/
structure Shown where
  grammar : Bool
  template : Bool
  hints : Bool

inductive Command where
  | list
  | print (name : String) (shown : Shown)
  | save (names : List String) (directory : Option String)
  | check (name file : String)
  | settings

/-- What a command is called for. -/
inductive Verb where
  | list
  | print
  | save
  | check
  | settings

/-- What the arguments of a command ask for. -/
inductive Request where
  | help
  | run (command : Command)

/-- What the arguments before those of a command ask for. -/
inductive Opening where
  | help
  | version
  | command (verb : Verb) (args : List String)

end FieldSchema.Tool
