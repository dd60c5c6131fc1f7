/-! The alphabet of document strings. A JSON escape can name one half of a UTF-16 surrogate pair, so
a string read from a document is a list of code points and not always a `String`. Two adjacent
halves written as escapes name one character. -/
namespace FieldSchema

/-- A character, or the surrogate `U+D800 + n` standing alone. -/
inductive CodePoint where
  | char (c : Char)
  | surrogate (n : Fin 2048)
deriving DecidableEq

abbrev Text := List CodePoint

def Text.ofList (s : List Char) : Text := s.map .char

def Text.ofString (s : String) : Text := .ofList s.toList

/-- The characters of a text, in which a replacement character stands for each surrogate. -/
def Text.chars (t : Text) : List Char :=
  t.map fun
    | .char c => c
    | .surrogate _ => '\ufffd'

@[simp] theorem Text.chars_ofList (s : List Char) : (Text.ofList s).chars = s := by
  simp [Text.chars, Text.ofList, Function.comp_def]

instance : Coe String Text := ⟨Text.ofString⟩

@[simp] theorem Text.length_ofString (s : String) : (Text.ofString s).length = s.toList.length := by
  simp [Text.ofString, Text.ofList]

theorem Text.ofList_append (s t : List Char) :
    Text.ofList (s ++ t) = Text.ofList s ++ Text.ofList t := List.map_append

theorem Text.ofString_append (s t : String) :
    Text.ofString (s ++ t) = Text.ofString s ++ Text.ofString t := by
  simp [ofString, ofList_append]

theorem Text.ofString_injective {s t : String} (h : Text.ofString s = Text.ofString t) : s = t := by
  have hc : ∀ a b, CodePoint.char a = CodePoint.char b → a = b := fun _ _ h => CodePoint.char.inj h
  exact String.toList_injective ((List.map_inj_right hc).1 h)

namespace CodePoint

def value : CodePoint → Nat
  | char c => c.toNat
  | surrogate n => 0xD800 + n

def ofUnit (unit : Nat) : CodePoint :=
  if h : 0xD800 ≤ unit ∧ unit < 0xE000 then surrogate ⟨unit - 0xD800, by omega⟩
  else char (Char.ofNat unit)

def units : CodePoint → List Nat
  | surrogate n => [0xD800 + n]
  | char c =>
    if c.toNat < 0x10000 then [c.toNat]
    else [0xD800 + (c.toNat - 0x10000) / 0x400, 0xDC00 + (c.toNat - 0x10000) % 0x400]

/-- A high half followed by a low half is one character beyond `U+FFFF`. -/
def joined? : CodePoint → CodePoint → Option Char
  | surrogate high, surrogate low =>
    if high < 0x400 ∧ 0x400 ≤ low.val then
      some (Char.ofNat (0x10000 + high.val * 0x400 + (low.val - 0x400)))
    else none
  | _, _ => none

end CodePoint

def Text.joinPairs : Text → Text
  | a :: b :: rest =>
    match a.joined? b with
    | some c => .char c :: joinPairs rest
    | none => a :: joinPairs (b :: rest)
  | short => short

end FieldSchema
