/-!
# Flavors

The two families of regex engines that fragments are written for. They differ in
which characters may follow a backslash: `re` engines backtrack and take a
backslash before any character that is no letter or digit, `re2` engines run in
linear time and take it before ASCII punctuation only.
-/

namespace LiteralRegex

/-- A family of regex engines. -/
inductive Flavor where
  | re
  | re2
deriving DecidableEq

namespace Flavor

/-- Every flavor, in the order of the codes. -/
def all : List Flavor := [re, re2]

/-- The number that stands for a flavor in settings. -/
def code : Flavor → Nat
  | re => 1
  | re2 => 2

/-- The name that messages use. -/
def name : Flavor → String
  | re => "RE"
  | re2 => "RE2"

/-- The flavor with a given code. -/
def ofCode? (n : Int) : Option Flavor := all.find? fun f => (f.code : Int) = n

/-- The codes of all flavors as messages list them. -/
def codeList : String :=
  "[" ++ ", ".intercalate (all.map fun f => toString f.code) ++ "]"

theorem ofCode?_code (f : Flavor) : ofCode? f.code = some f := by cases f <;> rfl

/-- A code is defined exactly when it is the code of the flavor it gives. -/
theorem ofCode?_eq_some_iff {n : Int} {f : Flavor} : ofCode? n = some f ↔ n = f.code := by
  constructor
  · intro h
    have := List.find?_some h
    simpa using (of_decide_eq_true this).symm
  · intro h
    rw [h]
    exact ofCode?_code f

end Flavor

end LiteralRegex
