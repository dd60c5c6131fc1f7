import FieldSchema.Number.Numeric
import FieldSchema.Text.Search

/-! The vocabulary of schemas. A schema is a tree of fields, each with a label and a kind; the data
of one field carries its own invariants, and what has to hold between fields is `Field.WellFormed`.
The texts of a schema are made of characters: half of a surrogate pair is none. -/
namespace FieldSchema

/-- The characters below the space, and delete. -/
def isControl (c : Char) : Bool := c.toNat < 0x20 || c.toNat == 0x7f

def isClean (s : String) : Bool := s.toList.all (!isControl ·)

theorem isClean_append {s t : String} : isClean (s ++ t) ↔ isClean s ∧ isClean t := by
  simp [isClean, List.all_append]

theorem isClean_iff {s : String} : isClean s ↔ ∀ c ∈ s.toList, isControl c = false := by
  simp [isClean]

/-- The name of a field, its key where it is a member of an object, and a hint for people. -/
structure Label where
  name : String
  hint : Option String
  named : name ≠ ""
  clean : isClean name
deriving DecidableEq

structure Bounds (α : Type) [LE α] where
  low : α
  high : α
  ordered : low ≤ high
deriving DecidableEq

instance : LE Finite64 := ⟨fun x y => x.units ≤ y.units⟩

instance (x y : Finite64) : Decidable (x ≤ y) := inferInstanceAs (Decidable (x.units ≤ y.units))

namespace Bounds

/-- Whether a count lies within the bounds. -/
def admits (b : Bounds Nat) (n : Nat) : Bool := b.low ≤ n && n ≤ b.high

@[simp] theorem admits_iff (b : Bounds Nat) (n : Nat) : b.admits n ↔ b.low ≤ n ∧ n ≤ b.high := by
  simp [admits]

end Bounds

/-- A value that a field can demand. -/
inductive Scalar where
  | int (n : Int)
  | real (x : Finite64)
  | text (s : String)
deriving DecidableEq

/-- The options of a choice, all of one type. -/
inductive Options where
  | ints (values : List Int)
  | reals (values : List Finite64)
  | texts (values : List String)
deriving DecidableEq

namespace Options

def scalars : Options → List Scalar
  | ints values => values.map .int
  | reals values => values.map .real
  | texts values => values.map .text

def Valid : Options → Prop
  | ints values => values ≠ [] ∧ values.Nodup
  | reals values => values ≠ [] ∧ (values.map Finite64.units).Nodup
  | texts values => values ≠ [] ∧ values.Nodup

instance : DecidablePred Valid := fun o => by
  cases o <;> exact inferInstanceAs (Decidable (_ ∧ _))

end Options

/-- The word in a pattern that stands for the generated text. -/
def generatedMark : String := "<generated>"

/-- Fixed text around one generated span. -/
structure Pattern where
  before : String
  after : String
  once : Search.occurrences generatedMark.toList (before ++ generatedMark ++ after).toList = 1
  clean : isClean (before ++ generatedMark ++ after)
deriving DecidableEq

namespace Pattern

def text (p : Pattern) : String := p.before ++ generatedMark ++ p.after

def fill (p : Pattern) (span : String) : String := p.before ++ span ++ p.after

end Pattern

inductive Field where
  | integer (label : Label) (bounds : Bounds Int)
  | real (label : Label) (bounds : Bounds Finite64)
  | string (label : Label) (lengths : Bounds Nat)
  | constant (label : Label) (value : Scalar)
  | boolean (label : Label)
  | choice (label : Label) (options : Options)
  | object (label : Label) (members : List Field)
  | variant (label : Label) (alternatives : List Field)
  | array (label : Label) (element : Field) (lengths : Bounds Nat)
  | optional (label : Label) (inner : Field)
  | template (label : Label) (pattern : Pattern) (lengths : Bounds Nat)

inductive Kind where
  | integer
  | real
  | string
  | constant
  | boolean
  | choice
  | object
  | variant
  | array
  | optional
  | template
deriving DecidableEq

def Kind.name : Kind → String
  | integer => "IntegerField"
  | real => "FloatField"
  | string => "StringField"
  | constant => "ConstantField"
  | boolean => "BooleanField"
  | choice => "ChoiceField"
  | object => "CompositeField"
  | variant => "VariantField"
  | array => "ArrayField"
  | optional => "OptionalField"
  | template => "TemplateStringField"

namespace Field

def label : Field → Label
  | integer label _ | real label _ | string label _ | constant label _ | boolean label
  | choice label _ | object label _ | variant label _ | array label _ _ | optional label _
  | template label _ _ => label

def name (f : Field) : String := f.label.name

def hint (f : Field) : Option String := f.label.hint

def kind : Field → Kind
  | integer .. => .integer
  | real .. => .real
  | string .. => .string
  | constant .. => .constant
  | boolean .. => .boolean
  | choice .. => .choice
  | object .. => .object
  | variant .. => .variant
  | array .. => .array
  | optional .. => .optional
  | template .. => .template

/-- The fields directly below a field. -/
def children : Field → List Field
  | object _ members => members
  | variant _ alternatives => alternatives
  | array _ element _ => [element]
  | optional _ inner => [inner]
  | _ => []

/-- Every field of the tree, each before the fields below it. -/
def preorder (f : Field) : List Field :=
  match f with
  | object _ members => f :: preorderAll members
  | variant _ alternatives => f :: preorderAll alternatives
  | array _ element _ => f :: preorder element
  | optional _ inner => f :: preorder inner
  | _ => [f]
where
  preorderAll : List Field → List Field
    | [] => []
    | f :: rest => preorder f ++ preorderAll rest

/-- Options are valid, the members of an object have distinct names, and a variant offers at least
one alternative, each an object. -/
inductive WellFormed : Field → Prop where
  | integer (label bounds) : WellFormed (.integer label bounds)
  | real (label bounds) : WellFormed (.real label bounds)
  | string (label lengths) : WellFormed (.string label lengths)
  | constant (label value) : WellFormed (.constant label value)
  | boolean (label) : WellFormed (.boolean label)
  | choice (label options) : options.Valid → WellFormed (.choice label options)
  | object (label members) : (∀ f ∈ members, WellFormed f) → (members.map name).Nodup →
      WellFormed (.object label members)
  | variant (label alternatives) : alternatives ≠ [] → (∀ f ∈ alternatives, WellFormed f) →
      (∀ f ∈ alternatives, f.kind = .object) → WellFormed (.variant label alternatives)
  | array (label element lengths) : WellFormed element → WellFormed (.array label element lengths)
  | optional (label inner) : WellFormed inner → WellFormed (.optional label inner)
  | template (label pattern lengths) : WellFormed (.template label pattern lengths)

end Field
end FieldSchema
