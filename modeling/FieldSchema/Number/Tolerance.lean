import FieldSchema.Number.Binary64

/-! When two finite doubles count as equal: they differ by at most `1e-9`, or by at most that share
of either of them, each quantity rounded to a double before the comparison. -/
namespace FieldSchema.Finite64

/-- The double nearest to `1e-9`. -/
def tolerance : Finite64 := ⟨false, ⟨0x3e112e0be826d695, by decide⟩⟩

theorem ofDecimal_tolerance : Binary64.ofDecimal false 1 (-9) = tolerance := by decide +kernel

/-- The position of `tolerance` times the magnitude of `x`. -/
def tolerated (x : Finite64) : Nat :=
  nearestPosition (tolerance.magnitude * x.magnitude) (unitsPerOne * unitsPerOne)

def isClose (x y : Finite64) : Bool :=
  let distance := nearestPosition (x.units - y.units).natAbs unitsPerOne
  x.units == y.units || distance ≤ y.tolerated || distance ≤ x.tolerated ||
    distance ≤ tolerance.position

theorem isClose_self (x : Finite64) : x.isClose x := by simp [isClose]

end FieldSchema.Finite64
