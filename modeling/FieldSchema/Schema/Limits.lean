import FieldSchema.Schema.Field

/-! The limits of a run on nested calls and on repetitions, and how many calls a walk down a tree of
fields nests. -/
namespace FieldSchema

structure Limits where
  /-- How many calls may be nested. -/
  calls : Nat
  /-- How often an item may be repeated. -/
  items : Nat

/-- The usual limits: a thousand calls, of which a few are spent before a schema is reached, and
lists with an index of 63 bits. -/
def Limits.standard : Limits := ⟨990, 0x7fffffffffffffff⟩

namespace Field

mutual

/-- How many calls are nested for a field. `own` says how many of them are its own, as a member of
an object or elsewhere. -/
def nestedCalls (own : Bool → Field → Nat) (member : Bool) (f : Field) : Nat :=
  own member f +
    match f with
    | .object _ members => nestedCallsBelow own true members
    | .variant _ alternatives => nestedCallsBelow own false alternatives
    | .array _ element _ => nestedCalls own false element
    | .optional _ inner => nestedCalls own false inner
    | _ => 0

def nestedCallsBelow (own : Bool → Field → Nat) (member : Bool) : List Field → Nat
  | [] => 0
  | f :: rest => max (nestedCalls own member f) (nestedCallsBelow own member rest)

end

end Field

end FieldSchema
