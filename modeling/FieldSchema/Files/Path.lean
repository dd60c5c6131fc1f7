/-! Paths as they are written. Repeated slashes, a slash at the end and single dots do not count; a
double dot stays, since what it means depends on the files. -/
namespace FieldSchema.Files

structure Path where
  /-- Empty for a relative path, and otherwise one or two slashes. -/
  root : String
  parts : List String
deriving DecidableEq

namespace Path

def rootOf (s : List Char) : String :=
  match s with
  | '/' :: '/' :: '/' :: _ => "/"
  | '/' :: '/' :: _ => "//"
  | '/' :: _ => "/"
  | _ => ""

def ofString (s : String) : Path :=
  let parts := (s.toList.splitOn '/').map String.ofList
  ⟨rootOf s.toList, parts.filter fun part => part ≠ "" ∧ part ≠ "."⟩

def text (p : Path) : String :=
  if p.root = "" ∧ p.parts = [] then "." else p.root ++ "/".intercalate p.parts

def child (p : Path) (name : String) : Path := { p with parts := p.parts ++ [name] }

def isAbsolute (p : Path) : Bool := p.root ≠ ""

end Path
end FieldSchema.Files
