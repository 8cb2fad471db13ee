import LiteralRegex.Request

/-!
# Sessions

What is kept between two requests: the default flavor and nothing else. Steps that set
the default change it, and requests leave it alone, whether they fail or not.
-/

namespace LiteralRegex

/-- One step of a session. -/
inductive SessionStep where
  | setDefault (code : DefaultCode)
  | resetDefault
  | request (choice : FlavorChoice) (r : Request)
deriving DecidableEq

/-- The default after a step, and the outcome if the step is a request. -/
def SessionStep.perform (default : DefaultCode) :
    SessionStep → DefaultCode × Option (Report Text)
  | setDefault code => (code, none)
  | resetDefault => (.initial, none)
  | request choice r => (default, some (r.answer default choice))

/-- The default after some steps, and their outcomes in order. -/
def runSession (default : DefaultCode) :
    List SessionStep → DefaultCode × List (Option (Report Text))
  | [] => (default, [])
  | step :: rest =>
    let (next, outcome) := step.perform default
    let (last, outcomes) := runSession next rest
    (last, outcome :: outcomes)

end LiteralRegex
