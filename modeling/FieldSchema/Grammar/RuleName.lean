import FieldSchema.Number.Numeric
import FieldSchema.Text.Hex

/-! Names of rules, over ASCII letters, digits and dashes. A field's name keeps its letters and
digits and spells every other character by its code point between dashes. -/
namespace FieldSchema.Grammar

def isNameChar (c : Char) : Bool := c.isAlphanum

def spellNameChar (c : Char) : List Char :=
  if isNameChar c then [c] else '-' :: 'x' :: Nat.toDigits 16 c.toNat ++ ['-']

def ruleName (fieldName : String) : String :=
  String.ofList (fieldName.toList.flatMap spellNameChar)

def numberToken (text : String) : String :=
  String.ofList (text.toList.flatMap fun c =>
    if c = '-' then ['m'] else if c = '.' then ['d'] else if c = '+' then [] else [c])

/-- The name of the rule that fields of one kind with the same bounds share. -/
def boundsName (kind : String) (low high : Numeric) : String :=
  s!"{kind}-{numberToken low.display}-{numberToken high.display}"

end FieldSchema.Grammar
