import FieldSchema.Number.Shortest

/-! Integers and doubles together. They are compared by value, an integer never being rounded first;
only NaN has no place in the order. -/
namespace FieldSchema

inductive Numeric where
  | int (n : Int)
  | real (x : Binary64)
deriving DecidableEq

namespace Numeric

instance : Coe Int Numeric := ⟨int⟩
instance : Coe Binary64 Numeric := ⟨real⟩
instance : Coe Finite64 Numeric := ⟨fun x => real x⟩

/-- Where a number lies: below, among or above the finite numbers, and how many units from zero. -/
def place? : Numeric → Option (Int × Int)
  | int n => some (0, n * Finite64.unitsPerOne)
  | real (.finite x) => some (0, x.units)
  | real (.infinite negative) => some (if negative then -1 else 1, 0)
  | real .nan => none

def lt (a b : Numeric) : Bool :=
  match a.place?, b.place? with
  | some p, some q => p.1 < q.1 || (p.1 == q.1 && p.2 < q.2)
  | _, _ => false

def same (a b : Numeric) : Bool :=
  match a.place?, b.place? with
  | some p, some q => p == q
  | _, _ => false

def abs : Numeric → Numeric
  | int n => int n.natAbs
  | real x => real x.abs

def negate : Numeric → Numeric
  | int n => int (-n)
  | real x => real x.negate

def display : Numeric → String
  | int n => toString n
  | real x => x.display

theorem lt_eq_decide {a b : Numeric} {m n : Int} (ha : a.place? = some (0, m))
    (hb : b.place? = some (0, n)) : a.lt b = decide (m < n) := by
  rw [lt, ha, hb]
  simp

@[simp] theorem same_int (m n : Int) : same m n = decide (m = n) := by
  have nonzero : (Finite64.unitsPerOne : Int) ≠ 0 :=
    Int.natCast_ne_zero.2 (Nat.ne_of_gt Finite64.unitsPerOne_pos)
  unfold same place?
  generalize (Finite64.unitsPerOne : Int) = unit at nonzero
  rw [Bool.eq_iff_iff, beq_iff_eq, Prod.mk.injEq, decide_eq_true_iff,
    Int.mul_eq_mul_right_iff nonzero]
  exact and_iff_right rfl

end Numeric
end FieldSchema
