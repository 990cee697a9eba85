/-!
# Sets of code points

A set of code points is a list of closed ranges.
-/
namespace TwoWaySql

/-- A set of code points, as closed ranges in increasing order. -/
abbrev Ranges := List (Nat × Nat)

/-- Whether a character belongs to a set. -/
def Ranges.contains (ranges : Ranges) (c : Char) : Bool :=
  ranges.any fun (first, last) => first ≤ c.toNat && c.toNat ≤ last

end TwoWaySql
