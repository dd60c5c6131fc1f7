/-! Maps between small letters and capitals, given by runs of letters that all lie at the same
distance from their counterparts. -/
namespace FieldSchema

/-- A run `(first, step, count, distance)` maps each of `first`, `first + step`, … to the letter
`distance` further on. -/
abbrev CaseRuns := List (Nat × Nat × Nat × Int)

/-- The counterpart of a code point, which is itself outside the runs. -/
def CaseRuns.apply (runs : CaseRuns) (n : Nat) : Nat :=
  match runs.find? fun (first, step, count, _) =>
      first ≤ n && (n - first) % step == 0 && (n - first) / step < count with
  | some (_, _, _, distance) => (n + distance).toNat
  | none => n

end FieldSchema
