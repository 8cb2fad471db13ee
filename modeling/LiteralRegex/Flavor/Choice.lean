import LiteralRegex.Flavor.Reader
import LiteralRegex.Report

/-!
# Choosing a flavor

A caller gives a flavor, a code, or nothing. Nothing stands for the default flavor,
which is kept as a code: a code that no flavor has is noticed only when it is used.
-/

namespace LiteralRegex

/-- The code of the default flavor, or `none` if no default is set. -/
abbrev DefaultCode := Option Int

/-- The default before it is ever set. -/
def DefaultCode.initial : DefaultCode := some Flavor.re.code

/-- How a caller gives a flavor. -/
inductive FlavorChoice where
  | given (flavor : Flavor)
  | byCode (code : Int)
  | unspecified
deriving DecidableEq

/-- The flavor that stands in where none is given. -/
def DefaultCode.resolve : DefaultCode → Report Flavor
  | none => { result := .error .noDefault }
  | some code =>
    match Flavor.ofCode? code with
    | some f => { result := .ok f, notices := [.defaultUsed f] }
    | none => { result := .error (.unknownDefault code) }

/-- The flavor that a choice comes to under a default. -/
def FlavorChoice.resolve (default : DefaultCode) : FlavorChoice → Report Flavor
  | given f => pure f
  | byCode code => .ofExcept (Flavor.ofCode code)
  | unspecified => default.resolve

end LiteralRegex
