import FieldSchema.Text.Utf8
import FieldSchema.Terminal.Markup.Constant.Token

/-! Constants: numbers, quoted texts, a few words, and tuples, sets and dictionaries of these. What
a text stands for does not matter here, only whether it is a constant. It is read token by token,
and for each open bracket what was read inside it so far is kept. -/
namespace FieldSchema.Terminal.Markup.Constant

/-- What is known of a part that was read. -/
inductive Shape where
  | real
  | imaginary
  /-- A number with a sign. -/
  | signed
  | text (bytes : Bool)
  /-- Any other constant; sets and dictionaries, and tuples with such, cannot be members. -/
  | other (isMember : Bool)
  /-- The name of the empty set, of which brackets are still to make a constant. -/
  | setName
deriving DecidableEq

def Shape.grouped : Shape → Shape
  | text _ => other true
  | shape => shape

/-- The member under way. -/
inductive Slot where
  | empty
  /-- A sign, which needs a number. -/
  | sign
  /-- A real number and a sign, which need an imaginary number. -/
  | sum
  | filled (shape : Shape)
deriving DecidableEq

/-- Texts in a row make one text. -/
def Slot.fill : Slot → Shape → Option Slot
  | empty, shape => some (filled shape)
  | sign, .real => some (filled .signed)
  | sign, .imaginary => some (filled (.other true))
  | sum, .imaginary => some (filled (.other true))
  | filled (.text b), .text c => if b = c then some (filled (.text b)) else none
  | _, _ => none

def Slot.addSign : Slot → Option Slot
  | empty => some sign
  | filled .real | filled .signed => some sum
  | _ => none

/-- Whether the member is complete, and then whether sets admit it. -/
def Slot.member? : Slot → Option Bool
  | filled .setName => none
  | filled (.other isMember) => some isMember
  | filled _ => some true
  | _ => none

/-- What curly brackets hold. -/
inductive Collection where
  | set
  | dictionary
deriving DecidableEq

/-- What was read between brackets. -/
structure Content where
  /-- Whether a comma ended some member. -/
  listed : Bool
  /-- Whether sets admit all members that commas ended. -/
  allMembers : Bool
  collection : Option Collection
  /-- Whether the key of the entry under way was read. -/
  keyed : Bool
  slot : Slot

def Content.empty : Content := ⟨false, true, none, false, .empty⟩

/-- What an open bracket is for. -/
inductive Frame where
  | group
  | collection
  /-- The brackets after the name of the empty set. -/
  | emptySet
deriving DecidableEq

def Frame.bracket : Frame → Bracket
  | collection => .curly
  | _ => .round

/-- Ends a member. A set admits only some, and in a dictionary each entry needs a key. -/
def Content.endMember? (c : Content) (frame : Frame) : Option Content := do
  let isMember ← c.slot.member?
  match frame with
  | .group =>
    return { c with listed := true, allMembers := c.allMembers && isMember, slot := .empty }
  | .collection =>
    if c.keyed then return { c with listed := true, keyed := false, slot := .empty }
    else if isMember ∧ c.collection ≠ some .dictionary then
      return { c with listed := true, collection := some .set, slot := .empty }
    else none
  | .emptySet => none

def Content.endKey? (c : Content) (frame : Frame) : Option Content :=
  if frame = .collection ∧ !c.keyed ∧ c.collection ≠ some .set ∧ c.slot.member? = some true then
    some { c with collection := some .dictionary, keyed := true, slot := .empty }
  else none

def Content.close? (c : Content) : Frame → Option Shape
  | .group =>
    match c.slot, c.listed with
    | .empty, _ => some (.other c.allMembers)
    | .filled shape, false => some shape.grouped
    | slot, _ => slot.member?.map fun isMember => .other (c.allMembers && isMember)
  | .collection =>
    if c.slot = .empty ∧ !c.keyed then some (.other false)
    else (c.endMember? .collection).map fun _ => .other false
  | .emptySet => if c.slot = .empty ∧ !c.listed then some (.other false) else none

/-- What was read: the content of the innermost bracket, and those around it. -/
structure Reading where
  content : Content
  outer : List (Frame × Content)

def Reading.start : Reading := ⟨.empty, []⟩

def Reading.frame (r : Reading) : Frame :=
  match r.outer with
  | (frame, _) :: _ => frame
  | [] => .group

def maxDepth : Nat := 200

def Reading.open? (r : Reading) (b : Bracket) : Option Reading :=
  if maxDepth ≤ r.outer.length then none
  else match b, r.content.slot with
    | .round, .filled .setName => some ⟨.empty, (.emptySet, r.content) :: r.outer⟩
    | _, .filled _ => none
    | .round, _ => some ⟨.empty, (.group, r.content) :: r.outer⟩
    | .curly, _ => some ⟨.empty, (.collection, r.content) :: r.outer⟩

def Reading.close? (r : Reading) (b : Bracket) : Option Reading :=
  match r.outer with
  | [] => none
  | (frame, around) :: outer =>
    if frame.bracket = b then do
      let shape ← r.content.close? frame
      let slot ← (if frame = .emptySet then Slot.empty else around.slot).fill shape
      return ⟨{ around with slot := slot }, outer⟩
    else none

def Reading.fill? (r : Reading) (shape : Shape) : Option Reading :=
  (r.content.slot.fill shape).map fun slot => { r with content.slot := slot }

def Reading.step? (r : Reading) : Token → Option Reading
  | .number imaginary => r.fill? (if imaginary then .imaginary else .real)
  | .text bytes => r.fill? (.text bytes)
  | .word => r.fill? (.other true)
  | .setName => r.fill? .setName
  | .opening b => r.open? b
  | .closing b => r.close? b
  | .comma => (r.content.endMember? r.frame).map ({ r with content := · })
  | .colon => (r.content.endKey? r.frame).map ({ r with content := · })
  | .sign => r.content.slot.addSign.map fun slot => { r with content.slot := slot }
  | .newline => none

/-- Whether a constant was read: one member, or a tuple without brackets. -/
def Reading.isComplete (r : Reading) : Bool :=
  r.outer.isEmpty && (r.content.slot.member?.isSome ||
    (r.content.slot = .empty && r.content.listed))

def isConstantOf (tokens : List Token) : Bool :=
  let started := tokens.dropWhile (· = .newline)
  let body := started.takeWhile (· ≠ .newline)
  (started.drop body.length).all (· = .newline) &&
    (body.foldlM Reading.step? .start).any Reading.isComplete

def isConstant (s : List Char) : Bool :=
  let s := Utf8.normalizeNewlines s
  !s.contains '\x00' && !isIndented false s && (tokens? 0 s).any isConstantOf

end FieldSchema.Terminal.Markup.Constant
