import LiteralRegex.CharRange.Basic

/-!
# Members of a range

The characters between two characters as a list, without a walk.
-/

namespace LiteralRegex

/-- The characters whose numbers lie from `low` to `high`, in ascending order. -/
def charsBetween (low high : Nat) : List Char :=
  (List.range' low (high + 1 - low)).filterMap Unicode.scalar?

/-- The characters of a range from its first to its last. -/
def CharRange.members (r : CharRange) : List Char :=
  if r.isDescending then (charsBetween r.last.toNat r.first.toNat).reverse
  else charsBetween r.first.toNat r.last.toNat

end LiteralRegex
