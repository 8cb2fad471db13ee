import LiteralRegex.Literal.Basic

/-!
# Class items

What the body of a character class is made of: single characters, and ranges with a
bare hyphen between their ends.
-/

namespace LiteralRegex

/-- One item of a class body. -/
inductive ClassItem where
  | char (c : Char)
  | range (first last : Char) (first_le_last : first ≤ last)

namespace ClassItem

/-- Holds of the numbers that the item covers. A range covers every number between its
ends, also those that no character has. -/
def Covers : ClassItem → Nat → Prop
  | char c, n => n = c.toNat
  | range first last _, n => first.toNat ≤ n ∧ n ≤ last.toNat

instance (item : ClassItem) (n : Nat) : Decidable (item.Covers n) :=
  match item with
  | char c => inferInstanceAs (Decidable (n = c.toNat))
  | range first last _ => inferInstanceAs (Decidable (first.toNat ≤ n ∧ n ≤ last.toNat))

/-- The item as it stands between the brackets. -/
def write (f : Flavor) : ClassItem → Text
  | char c => f.escape c
  | range first last _ => f.escape first ++ ['-'] ++ f.escape last

end ClassItem

/-- Items one after the other. -/
def Flavor.writeItems (f : Flavor) (items : List ClassItem) : Text := items.flatMap (·.write f)

end LiteralRegex
