/-!
# Sets of characters given by runs of numbers

A property of characters is kept as the inclusive runs of numbers that have it.
-/

namespace LiteralRegex.Unicode

/-- Holds when the number of `c` lies in one of the inclusive runs. -/
def inRanges (ranges : List (Nat × Nat)) (c : Char) : Bool :=
  ranges.any fun (first, last) => first ≤ c.toNat && c.toNat ≤ last

end LiteralRegex.Unicode
