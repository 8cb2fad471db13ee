import LiteralRegex.CommandLine.Invocation

/-!
# Outcomes

What a run of the program leaves behind: an exit code and the text on the two output
streams. Results go to standard output; diagnostics and errors go to the other
stream and never change a result.

Diagnostics are log records, and a logger makes a line of text of each. The one that the program
installs is `LogRecord.line`, which shows the places of records. Exit codes, results and errors are
the same with every logger (`exists_outcomeWith_eq_behind`), so most statements are about `outcome`,
whose log has no places in it.
-/

namespace LiteralRegex.CommandLine

/-- What a run of the program leaves behind. -/
structure Outcome where
  exitCode : Nat
  stdout : String := ""
  stderr : String := ""
deriving DecidableEq

/-- A flavor as diagnostics show it. -/
def flavorDisplay : Option Flavor → String
  | none => "None"
  | some .re => "Some(Re)"
  | some .re2 => "Some(Re2)"

/-- The record that opens the diagnostics. -/
def openingRecord (command : Command) (options : Options) : LogRecord :=
  ⟨.debug, "rtk", some 28,
    "command=" ++ command.display ++ " flavor=" ++ flavorDisplay options.flavor⟩

/-- Log records one to a line, as a logger writes them. -/
def logText (logger : LogRecord → String) (records : List LogRecord) : String :=
  String.join (records.map (logger · ++ "\n"))

/-- How a command chooses the flavor. -/
def Options.choice (options : Options) : FlavorChoice :=
  match options.flavor with
  | some f => .given f
  | none => .unspecified

/-- The outcome of a command, with diagnostics if they are asked for. -/
def Command.run (command : Command) (logger : LogRecord → String) (options : Options)
    (diagnostics : Bool) : Outcome :=
  let report := command.output options.choice
  let log :=
    if diagnostics then
      logText logger (openingRecord command options :: report.notices.map Notice.record)
    else ""
  match report.result with
  | .ok text => { exitCode := 0, stdout := text ++ "\n", stderr := log }
  | .error e => { exitCode := 1, stderr := log ++ "error: " ++ e.message ++ "\n" }

/-- The outcome of the program with a logger. Diagnostics are asked for by an option, or by a variable
of the environment that is set to anything. -/
def outcomeWith (logger : LogRecord → String) (args : List String) (setting : Option String) :
    Outcome :=
  match Invocation.ofArgs args with
  | .error e => { exitCode := 2, stderr := e.message ++ "\n" }
  | .ok .help => { exitCode := 0, stdout := helpText ++ "\n" }
  | .ok .version => { exitCode := 0, stdout := "rtk " ++ version ++ "\n" }
  | .ok (.run command options) => command.run logger options (options.debug || setting.isSome)

/-- The outcome of the program up to the places of its log records, which are left out. -/
def outcome (args : List String) (setting : Option String) : Outcome :=
  outcomeWith LogRecord.lineWithoutPlace args setting

end LiteralRegex.CommandLine
