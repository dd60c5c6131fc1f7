import FieldSchema.Files.Path

/-! Files and directories, and where in them a program runs. A place is a list of names from the top
down; whatever contains a file or the current directory is a directory. -/
namespace FieldSchema.Files

abbrev Content := List UInt8

def Content.ofString (s : String) : Content := s.toUTF8.toList

abbrev Place := List String

structure Tree where
  files : List (Place × Content)
  /-- Directories that need contain nothing. -/
  directories : List Place
  current : Place

inductive Fault where
  | missing
  | exists
  | isDirectory
  | notDirectory
  | tooLong
  | nullCharacter
deriving DecidableEq

/-- The most bytes that a name may have, and with the names above it a path. -/
def maxNameBytes : Nat := 255

def maxPathBytes : Nat := 4095

namespace Tree

def isFile (t : Tree) (p : Place) : Bool := t.files.any (·.1 == p)

def isDirectory (t : Tree) (p : Place) : Bool :=
  p.isPrefixOf t.current || t.directories.any p.isPrefixOf ||
    t.files.any fun (file, _) => p.isPrefixOf file && p ≠ file

def content? (t : Tree) (p : Place) : Option Content := t.files.lookup p

def start (t : Tree) (p : Path) : Place := if p.isAbsolute then [] else t.current

def enter (place : Place) (part : String) : Place :=
  if part = ".." then place.dropLast else place ++ [part]

/-- Follows the parts of a path; all but the last must lead to a directory. -/
def follow (t : Tree) (place : Place) : List String → Except Fault Place
  | [] => .ok place
  | part :: rest =>
    if t.isFile place then .error .notDirectory
    else if !t.isDirectory place then .error .missing
    else if maxNameBytes < part.utf8ByteSize then .error .tooLong
    else follow t (enter place part) rest

def locate (t : Tree) (p : Path) : Except Fault Place :=
  if p.text.toList.contains '\x00' then .error .nullCharacter
  else if maxPathBytes < p.text.utf8ByteSize then .error .tooLong
  else t.follow (t.start p) p.parts

/-- Whether a path leads to a file or a directory. No file has a path with a null character, and
asking for one is a fault. -/
def leadsSomewhere (t : Tree) (p : Path) : Except Fault Bool :=
  match t.locate p with
  | .ok place => .ok (t.isDirectory place || t.isFile place)
  | .error .nullCharacter => .error .nullCharacter
  | .error _ => .ok false

def read (t : Tree) (p : Path) : Except Fault Content := do
  let place ← t.locate p
  if t.isDirectory place then throw .isDirectory
  match t.content? place with
  | some c => return c
  | none => throw .missing

def write (t : Tree) (p : Path) (c : Content) : Except Fault Tree := do
  let place ← t.locate p
  if t.isDirectory place then throw .isDirectory
  let others := t.files.filter (·.1 ≠ place)
  return { t with files := others ++ [(place, c)] }

/-- Makes the last part of a path a directory, unless it is one; the parts above it must be there.
-/
def makeLast (t : Tree) (p : Path) : Except Fault Tree := do
  let place ← t.locate p
  if t.isDirectory place then return t
  if t.isFile place then throw .exists
  return { t with directories := place :: t.directories }

/-- Makes a directory of the first `n` parts of a path, and where it cannot be made for want of one
above it, makes that first. -/
def makeUpTo (t : Tree) (p : Path) : (n : Nat) → Except Fault Tree
  | 0 => t.makeLast { p with parts := [] }
  | n + 1 =>
    let here : Path := { p with parts := p.parts.take (n + 1) }
    match t.makeLast here with
    | .error .missing => do (← t.makeUpTo p n).makeLast here
    | result => result

/-- Makes a directory and those above it, as far as they are not there. -/
def makeDirectory (t : Tree) (p : Path) : Except Fault Tree := t.makeUpTo p p.parts.length

theorem exists_of_makeLast_eq_ok {t made : Tree} {p : Path} (h : t.makeLast p = .ok made) :
    ∃ place, t.locate p = .ok place ∧ (t.isDirectory place ∧ made = t ∨
      made = { t with directories := place :: t.directories }) := by
  unfold makeLast at h
  cases hl : t.locate p with
  | error fault => simp [hl, bind, Except.bind] at h
  | ok place =>
    simp only [hl, bind, Except.bind, pure, Except.pure] at h
    refine ⟨place, rfl, ?_⟩
    split at h
    next hd => exact .inl ⟨hd, (Except.ok.inj h).symm⟩
    next =>
      split at h
      · exact absurd h nofun
      · exact .inr (Except.ok.inj h).symm

theorem files_makeLast {t made : Tree} {p : Path} (h : t.makeLast p = .ok made) :
    made.files = t.files := by
  obtain ⟨place, -, ⟨-, rfl⟩ | rfl⟩ := exists_of_makeLast_eq_ok h <;> rfl

theorem exists_of_makeUpTo_eq_ok {t made : Tree} {p : Path} {n : Nat}
    (h : t.makeUpTo p n = .ok made) : ∃ above : Tree, above.files = t.files ∧
      above.makeLast { p with parts := p.parts.take n } = .ok made := by
  induction n generalizing made with
  | zero => exact ⟨t, rfl, h⟩
  | succ n ih =>
    unfold makeUpTo at h
    dsimp only at h
    split at h
    · cases hm : t.makeUpTo p n with
      | error fault => simp [hm, bind, Except.bind] at h
      | ok parent =>
        simp only [hm, bind, Except.bind] at h
        obtain ⟨above, files, last⟩ := ih hm
        exact ⟨parent, (files_makeLast last).trans files, h⟩
    · exact ⟨t, rfl, h⟩

theorem files_makeUpTo {t made : Tree} {p : Path} {n : Nat} (h : t.makeUpTo p n = .ok made) :
    made.files = t.files := by
  obtain ⟨above, files, last⟩ := exists_of_makeUpTo_eq_ok h
  exact (files_makeLast last).trans files

/-- The files of `after` that are not in `before` as they are, by their path from the current
directory. -/
def changes (before after : Tree) : List (String × Content) :=
  let inside := after.files.filterMap fun (place, c) =>
    if before.current.isPrefixOf place ∧ before.content? place ≠ some c then
      some ("/".intercalate (place.drop before.current.length), c)
    else none
  inside.mergeSort fun a b => !(b.1 < a.1)

end Tree
end FieldSchema.Files
