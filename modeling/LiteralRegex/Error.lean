import LiteralRegex.Flavor.Basic
import LiteralRegex.Span
import LiteralRegex.Text.Quoted

/-!
# Errors

Every way in which an operation can refuse, with the facts that its message tells. An
error is about the choice of a flavor or about malformed input; the wording of both is
in one place each.
-/

namespace LiteralRegex

/-! ## Malformed input -/

/-- What is wrong with an input. -/
inductive InputError where
  /-- The text names no flavor and is no integer of 64 bits. -/
  | notFlavor (text : Text)
  /-- The text was to be one character and is shorter or longer. -/
  | notOneCharacter (text : Text)
  /-- The text is not one to eight hexadecimal digits. -/
  | notHexadecimal (text : Text)
  /-- The digits stand for a number of more than 32 bits. -/
  | hexadecimalTooLarge (text : Text)
  /-- The digits stand for a number that no character has. -/
  | notScalarValue (text : Text)
  /-- The span ends before it starts. -/
  | reversedSpan (span : Span)
  /-- The span reaches beyond a text of `length` characters. -/
  | spanOutOfBounds (span : Span) (length : Nat)
  /-- The span starts before the one in front of it ends. -/
  | spanOverlaps (span previous : Span)
  /-- There is not one mask for each span. -/
  | maskCount (spans masks : Nat)
deriving DecidableEq

namespace InputError

/-- A text as messages show it. -/
def shown (text : Text) : String := String.ofList text.quoted

/-- What is wrong, in words. -/
def message : InputError → String
  | notFlavor text =>
    "unknown regex flavor " ++ shown text ++ " (expected re, re2 or one of "
      ++ Flavor.codeList ++ ")"
  | notOneCharacter text =>
    "expected exactly one character, but " ++ shown text ++ " has "
      ++ toString text.length ++ " characters"
  | notHexadecimal text => shown text ++ " is not a hexadecimal codepoint"
  | hexadecimalTooLarge text =>
    shown text ++ " is not a hexadecimal codepoint: number too large to fit in target type"
  | notScalarValue text => "codepoint " ++ shown text ++ " is not a Unicode scalar value"
  | reversedSpan span => "span " ++ span.display ++ " has start > end"
  | spanOutOfBounds span length =>
    "span " ++ span.display ++ " is out of bounds for text of " ++ toString length ++ " chars"
  | spanOverlaps span previous =>
    "span " ++ span.display ++ " overlaps or precedes span " ++ previous.display
      ++ "; spans must be ordered and non-overlapping"
  | maskCount spans masks =>
    "got " ++ toString spans ++ " spans but " ++ toString masks ++ " masks"

end InputError

/-! ## All errors -/

/-- Why an operation gave no result. -/
inductive Error where
  /-- A flavor was asked for by a code that no flavor has. -/
  | unknownFlavor (code : Int)
  /-- The default flavor was needed and is set to a code that no flavor has. -/
  | unknownDefault (code : Int)
  /-- The default flavor was needed and is not set. -/
  | noDefault
  /-- The input is malformed. -/
  | input (e : InputError)
deriving DecidableEq

/-- Holds of malformed input, as opposed to a flavor that cannot be settled. -/
def Error.IsInput : Error → Prop
  | input _ => True
  | _ => False

instance (e : Error) : Decidable e.IsInput :=
  match e with
  | .input _ => isTrue trivial
  | .unknownFlavor _ | .unknownDefault _ | .noDefault => isFalse id

/-- The message for an error. -/
def Error.message : Error → String
  | unknownFlavor code =>
    "invalid regex flavor: " ++ toString code ++ ". Valid flavors are: " ++ Flavor.codeList
  | unknownDefault code =>
    "invalid default regex flavor: " ++ toString code ++ ". Valid flavors are: "
      ++ Flavor.codeList
  | noDefault => "no regex flavor provided and no default is set"
  | input e => "invalid input: " ++ e.message

end LiteralRegex
