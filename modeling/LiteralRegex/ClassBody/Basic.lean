import LiteralRegex.ClassBody.Item
import LiteralRegex.ClassBody.Run

/-!
# Class bodies

What stands between the brackets of a character class that matches exactly the
characters of a list. A run of three or more consecutive characters is written as a
range; a shorter one is written character by character, which takes no more room.
-/

namespace LiteralRegex

/-- The items for a run. -/
def CharRun.items (r : CharRun) : List ClassItem :=
  if r.length = 1 then [.char r.first]
  else if r.length = 2 then [.char r.first, .char r.last]
  else [.range r.first r.last r.first_le_last]

/-- The items for the characters, in ascending order. -/
def classItems (chars : List Char) : List ClassItem := (charRuns chars).flatMap CharRun.items

/-- The body of a class that matches exactly the characters of the list. -/
def Flavor.classBody (f : Flavor) (chars : List Char) : Text := f.writeItems (classItems chars)

end LiteralRegex
