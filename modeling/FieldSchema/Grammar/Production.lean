import FieldSchema.Schema.Field
import FieldSchema.Text.Hex

/-! The right-hand sides of grammar rules: alternatives of sequences of items, in a notation that
has literals, character classes, rule names, groups and zero-or-one but no counted repetition. A
production is data; `render` is its text. -/
namespace FieldSchema.Grammar

inductive Item where
  /-- Exactly this text. -/
  | text (s : String)
  /-- One character inside one of the ranges, or else one outside all of them. -/
  | oneOf (inside : Bool) (ranges : List (Char × Char))
  /-- A text of the rule of this name. -/
  | ref (name : String)
  | group (alternatives : List (List Item))
  /-- Nothing, or a text of one alternative. -/
  | optional (alternatives : List (List Item))

abbrev Sequence := List Item

abbrev Production := List Sequence

namespace Item

def digits (low high : Nat) : Item := oneOf true [(Nat.digitChar low, Nat.digitChar high)]

/-- One character that a JSON string may hold unescaped, other than delete. -/
def stringChar : Item :=
  oneOf false [('"', '"'), ('\\', '\\'), ('\x00', '\x1f'), ('\x7f', '\x7f')]

mutual

def same : Item → Item → Bool
  | text s, text t => s == t
  | oneOf i r, oneOf j s => i == j && r == s
  | ref m, ref n => m == n
  | group p, group q => sameAlternatives p q
  | optional p, optional q => sameAlternatives p q
  | _, _ => false

def sameSequence : List Item → List Item → Bool
  | [], [] => true
  | a :: as, b :: bs => same a b && sameSequence as bs
  | _, _ => false

def sameAlternatives : List (List Item) → List (List Item) → Bool
  | [], [] => true
  | a :: as, b :: bs => sameSequence a b && sameAlternatives as bs
  | _, _ => false

end

mutual

theorem same_iff : ∀ a b : Item, same a b ↔ a = b
  | text s, b => by cases b <;> simp [same]
  | oneOf i r, b => by cases b <;> simp [same]
  | ref n, b => by cases b <;> simp [same]
  | group p, b => by cases b <;> simp [same, sameAlternatives_iff p]
  | optional p, b => by cases b <;> simp [same, sameAlternatives_iff p]

theorem sameSequence_iff : ∀ a b : List Item, sameSequence a b ↔ a = b
  | [], b => by cases b <;> simp [sameSequence]
  | a :: as, b => by cases b <;> simp [sameSequence, same_iff a, sameSequence_iff as]

theorem sameAlternatives_iff : ∀ a b : List (List Item), sameAlternatives a b ↔ a = b
  | [], b => by cases b <;> simp [sameAlternatives]
  | a :: as, b => by
    cases b <;> simp [sameAlternatives, sameSequence_iff a, sameAlternatives_iff as]

end

instance : DecidableEq Item := fun a b => decidable_of_iff (same a b) (same_iff a b)

end Item

/-- In a quoted literal a backslash keeps the character after it from being read as a mark. -/
def escapeLiteral (c : Char) : List Char := if c = '"' ∨ c = '\\' then ['\\', c] else [c]

def quoteLiteral (s : String) : String :=
  "\"" ++ String.ofList (s.toList.flatMap escapeLiteral) ++ "\""

/-- A character in a class: a backslash keeps a mark from being read as one, and a control character
is spelled by its number. -/
def spellInClass (c : Char) : List Char :=
  if c = '\\' ∨ c = ']' ∨ c = '^' ∨ c = '-' then ['\\', c]
  else if isControl c then '\\' :: 'x' :: (Hex.padded 2 c.toNat).map Char.toUpper
  else [c]

def spellRange (range : Char × Char) : List Char :=
  if range.1 = range.2 then spellInClass range.1
  else spellInClass range.1 ++ '-' :: spellInClass range.2

def classText (inside : Bool) (ranges : List (Char × Char)) : List Char :=
  '[' :: (if inside then [] else ['^']) ++ ranges.flatMap spellRange ++ [']']

mutual

/-- Of the items that may be left out, a minus sign alone stands without brackets. -/
def Item.render : Item → String
  | .text s => quoteLiteral s
  | .oneOf inside ranges => String.ofList (classText inside ranges)
  | .ref name => name
  | .group p => "(" ++ renderAlternatives p ++ ")"
  | .optional [[.text "-"]] => quoteLiteral "-" ++ "?"
  | .optional p => "(" ++ renderAlternatives p ++ ")?"

def renderSequence : List Item → String
  | [] => ""
  | [i] => i.render
  | i :: rest => i.render ++ " " ++ renderSequence rest

def renderAlternatives : List (List Item) → String
  | [] => ""
  | [s] => renderSequence s
  | s :: rest => renderSequence s ++ " | " ++ renderAlternatives rest

end

theorem Item.render_optional {p : List (List Item)} (h : p ≠ [[.text "-"]]) :
    (Item.optional p).render = "(" ++ renderAlternatives p ++ ")?" := by
  rw [Item.render]
  exact h

def Production.render (p : Production) : String := renderAlternatives p

/-- `count` optional items, each inside the one before it, so that every number of them up to
`count` comes about in one way. -/
def nested (i : Item) : Nat → Sequence
  | 0 => []
  | count + 1 => [.optional [i :: nested i count]]

/-- An item at least `low` and at most `high` times. -/
def between (i : Item) (low high : Int) : Sequence :=
  List.replicate low.toNat i ++ nested i (high - low).toNat

end FieldSchema.Grammar
