import LiteralRegex.CommandLine.Outcome
import LiteralRegex.Proofs.Report
import LiteralRegex.Proofs.Session.Default

/-!
# Requests of commands

Four commands write a fragment, which is the answer to a request (`Command.request?`). The others have no
use for a flavor. So the result of a command depends on the flavor that is chosen for it and not on how
that is chosen (`Command.result_output_congr`).
-/

namespace LiteralRegex.CommandLine.Command

variable {command : Command}

/-- The request that a command makes, if it writes a fragment. -/
def request? : Command → Option Request
  | escape char => some (.characterText char.toList)
  | literal text => some (.literal text.toList)
  | alternation texts => some (.alternation (texts.map String.toList))
  | classBody chars => some (.classBody chars.toList)
  | codePoint _ | character _ | range _ _ | compose _ => none

lemma output_of_request? {r : Request} (h : command.request? = some r) (choice : FlavorChoice) :
    command.output choice = String.ofList <$> r.answer .initial choice := by
  cases command with
  | escape text | literal text | alternation text | classBody text =>
    obtain rfl := Option.some.inj h
    rfl
  | codePoint _ | character _ | range _ _ | compose _ => cases h

lemma output_of_request?_eq_none (h : command.request? = none) (choice other : FlavorChoice) :
    command.output choice = command.output other := by
  cases command with
  | escape _ | literal _ | alternation _ | classBody _ => cases h
  | codePoint _ | character _ | range _ _ | compose _ => rfl

/-- Choices that come to the same flavor give the same result. -/
theorem result_output_congr (command : Command) {choice other : FlavorChoice}
    (h : (choice.resolve .initial).result = (other.resolve .initial).result) :
    (command.output choice).result = (command.output other).result := by
  cases hrequest : command.request? with
  | none => rw [output_of_request?_eq_none hrequest choice other]
  | some r =>
    rw [output_of_request? hrequest, output_of_request? hrequest, Report.result_map,
      Report.result_map, r.result_answer, r.result_answer, h]

end LiteralRegex.CommandLine.Command
