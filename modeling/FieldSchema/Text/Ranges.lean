/-! Sets of characters, given by the first and last code point of each run of members in increasing
order. -/
namespace FieldSchema

abbrev Ranges := List (Nat × Nat)

def Ranges.contains (ranges : Ranges) (c : Char) : Bool :=
  ranges.any fun (first, last) => first ≤ c.toNat && c.toNat ≤ last

end FieldSchema
