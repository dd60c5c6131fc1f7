/-! Reading UTF-8. The first sequence that is not well-formed ends the reading; its extent and its
fault are those of the longest part of it that could still have become a character. -/
namespace FieldSchema.Utf8

-- Powers are those of the core library, whatever else is imported.
attribute [local instance (high)] instPowNat

inductive Fault where
  | start
  | continuation
  | ended

def Fault.message : Fault → String
  | start => "invalid start byte"
  | continuation => "invalid continuation byte"
  | ended => "unexpected end of data"

/-- A fault in the `width` bytes from `position` on, the first of which is `byte`. -/
structure Error where
  position : Nat
  width : Nat
  byte : UInt8
  fault : Fault

def hexByte (b : UInt8) : String :=
  let digits := Nat.toDigits 16 b.toNat
  String.ofList (List.replicate (2 - digits.length) '0' ++ digits)

def Error.message (e : Error) : String :=
  let place :=
    if e.width = 1 then s!"byte 0x{hexByte e.byte} in position {e.position}"
    else s!"bytes in position {e.position}-{e.position + e.width - 1}"
  s!"'utf-8' codec can't decode {place}: {e.fault.message}"

/-- How many bytes a character takes that starts with this one. -/
def length? (b : UInt8) : Option Nat :=
  let n := b.toNat
  if n < 0x80 then some 1
  else if 0xc2 ≤ n ∧ n < 0xe0 then some 2
  else if 0xe0 ≤ n ∧ n < 0xf0 then some 3
  else if 0xf0 ≤ n ∧ n < 0xf5 then some 4
  else none

/-- Whether a byte may follow the first one: no overlong form, no surrogate, none past the last. -/
def maySecond (first second : UInt8) : Bool :=
  let low := if first = 0xe0 then 0xa0 else if first = 0xf0 then 0x90 else 0x80
  let high := if first = 0xed then 0x9f else if first = 0xf4 then 0x8f else 0xbf
  low ≤ second.toNat && second.toNat ≤ high

def mayFollow (b : UInt8) : Bool := 0x80 ≤ b.toNat && b.toNat ≤ 0xbf

/-- How many of the bytes after the first may follow it, at most `more`. -/
def followers (first : UInt8) (more : Nat) (rest : List UInt8) : Nat :=
  match rest.take more with
  | [] => 0
  | second :: others =>
    if maySecond first second then 1 + (others.takeWhile mayFollow).length else 0

def codePoint (length : Nat) (bytes : List UInt8) : Nat :=
  match bytes with
  | [] => 0
  | first :: others =>
    let head := if length = 1 then first.toNat else first.toNat % 2 ^ (7 - length)
    others.foldl (fun n b => n * 64 + b.toNat % 64) head

/-- Reads on from `position`, adding to the reversed characters read so far. -/
def decodeFrom (position : Nat) (read : List Char) : List UInt8 → Except Error (List Char)
  | [] => .ok read.reverse
  | first :: rest =>
    match length? first with
    | none => .error ⟨position, 1, first, .start⟩
    | some length =>
      let good := followers first (length - 1) rest
      if good = length - 1 then
        let c := Char.ofNat (codePoint length (first :: rest.take good))
        decodeFrom (position + length) (c :: read) (rest.drop good)
      else if rest.length = good then .error ⟨position, good + 1, first, .ended⟩
      else .error ⟨position, good + 1, first, .continuation⟩
termination_by bytes => bytes.length
decreasing_by
  rw [List.length_drop]
  exact Nat.lt_succ_of_le (Nat.sub_le ..)

def decode (bytes : List UInt8) : Except Error (List Char) := decodeFrom 0 [] bytes

/-- Every way to end a line becomes a line feed. -/
def normalizeNewlines : List Char → List Char
  | '\r' :: '\n' :: rest => '\n' :: normalizeNewlines rest
  | '\r' :: rest => '\n' :: normalizeNewlines rest
  | c :: rest => c :: normalizeNewlines rest
  | [] => []

end FieldSchema.Utf8
