import FieldSchema.Number.Binary64
import FieldSchema.Text.CodePoint

/-! JSON documents as values. Numbers written without point and exponent are integers of any size;
all others are doubles. An object keeps its members in order, each key once. -/
namespace FieldSchema

inductive Json where
  | null
  | bool (b : Bool)
  | int (n : Int)
  | real (x : Binary64)
  | string (s : Text)
  | array (items : List Json)
  | object (members : List (Text × Json))

namespace Json

mutual

def same : Json → Json → Bool
  | null, null => true
  | bool a, bool b => a == b
  | int m, int n => m == n
  | real x, real y => x == y
  | string s, string t => s == t
  | array items, array others => sameItems items others
  | object members, object others => sameMembers members others
  | _, _ => false

def sameItems : List Json → List Json → Bool
  | [], [] => true
  | a :: as, b :: bs => same a b && sameItems as bs
  | _, _ => false

def sameMembers : List (Text × Json) → List (Text × Json) → Bool
  | [], [] => true
  | (k, v) :: as, (l, w) :: bs => k == l && same v w && sameMembers as bs
  | _, _ => false

end

mutual

theorem same_iff : ∀ a b : Json, same a b ↔ a = b
  | null, b => by cases b <;> simp [same]
  | bool _, b => by cases b <;> simp [same]
  | int _, b => by cases b <;> simp [same]
  | real _, b => by cases b <;> simp [same]
  | string _, b => by cases b <;> simp [same]
  | array items, b => by cases b <;> simp [same, sameItems_iff items]
  | object members, b => by cases b <;> simp [same, sameMembers_iff members]

theorem sameItems_iff : ∀ as bs : List Json, sameItems as bs ↔ as = bs
  | [], bs => by cases bs <;> simp [sameItems]
  | a :: as, bs => by cases bs <;> simp [sameItems, same_iff a, sameItems_iff as]

theorem sameMembers_iff : ∀ as bs : List (Text × Json), sameMembers as bs ↔ as = bs
  | [], bs => by cases bs <;> simp [sameMembers]
  | (k, v) :: as, bs => by
    cases bs <;> simp [sameMembers, Prod.ext_iff, same_iff v, sameMembers_iff as, and_assoc]

end

instance : DecidableEq Json := fun a b => decidable_of_iff (same a b) (same_iff a b)

def typeName : Json → String
  | null => "null"
  | bool _ => "boolean"
  | int _ => "integer"
  | real _ => "number"
  | string _ => "string"
  | array _ => "array"
  | object _ => "object"

/-- Sets the value of a key: in its place if the key is there, at the end otherwise. -/
def put (key : Text) (value : Json) : List (Text × Json) → List (Text × Json)
  | [] => [(key, value)]
  | (k, v) :: rest => if k = key then (k, value) :: rest else (k, v) :: put key value rest

end Json
end FieldSchema
