import LiteralRegex.CommandLine.Outcome

/-!
# The program

Runs the command line on the arguments of the process.
-/

open LiteralRegex LiteralRegex.CommandLine in
/-- Prints the outcome of the arguments and ends with its exit code. -/
def main (args : List String) : IO UInt32 := do
  let outcome := outcomeWith LogRecord.line args (← IO.getEnv "RTK_DEBUG")
  IO.eprint outcome.stderr
  IO.print outcome.stdout
  return outcome.exitCode.toUInt32
