import LiteralRegex.CommandLine.Command

/-!
# Invocations

What a list of arguments asks for. Options stand before the name of the command and
nowhere else: from the name on, and after a separator, arguments are taken as they
are, even if they look like options.
-/

namespace LiteralRegex.CommandLine

/-! ## Kinds of arguments -/

/-- What an argument before the command means. -/
inductive Argument where
  | help
  | version
  | debug
  /-- The flavor is the next argument. -/
  | flavorNext
  /-- The flavor is the rest of this argument. -/
  | flavorHere (value : Text)
  /-- The options end here. -/
  | separator
  | unknownOption
  /-- The name of a command. -/
  | name
deriving DecidableEq

/-- The text without the copies of `lead` that it begins with. -/
def dropLeads (lead text : Text) : Text :=
  if lead ≠ [] ∧ lead.isPrefixOf text then dropLeads lead (text.drop lead.length) else text
termination_by text.length
decreasing_by
  rename_i h
  have := (List.isPrefixOf_iff_prefix.mp h.2).length_le
  have := List.length_pos_iff.mpr h.1
  simp
  omega

/-- What an option that holds its flavor begins with. -/
def flavorLead : Text := "--flavor=".toList

/-- The meaning of an argument before the command. -/
def Argument.of (arg : String) : Argument :=
  if arg = "-h" ∨ arg = "--help" then help
  else if arg = "-V" ∨ arg = "--version" then version
  else if arg = "--debug" then debug
  else if arg = "-f" ∨ arg = "--flavor" then flavorNext
  else if arg = "--" then separator
  else if flavorLead.isPrefixOf arg.toList then flavorHere (dropLeads flavorLead arg.toList)
  else if arg.toList.head? = some '-' then unknownOption
  else name

/-! ## Usage errors -/

/-- Why a list of arguments asks for nothing. -/
inductive UsageError where
  | noCommand
  | unknownCommand (name : String)
  /-- The command takes one argument. -/
  | expectsOne (name : String) (given : Nat)
  /-- The command takes two arguments. -/
  | expectsTwo (name : String) (given : Nat)
  | flavorMissing
  | flavorRefused (reason : Error)
  | unknownOption (arg : String)
deriving DecidableEq

/-- The version of the program. -/
def version : String := "0.1.0"

/-- The help text, which ends in a line break. -/
def helpText : String :=
  "rtk " ++ version ++ "

Build regex fragments that match literal text exactly.

Usage:
  rtk [OPTIONS] [--] <command> [args...]

Options must come before the command. Arguments after the command are
taken literally, even when they start with '-'.

Commands:
  escape <char>          Expression matching one character.
  string <text>          Expression matching a string.
  strings <text>...      Alternation matching any of the strings.
  make <chars>...        Character-class body matching the characters.
  cpoint <char>          Codepoint of a character (8 hex digits).
  char <cpoint>          Character for a hex codepoint.
  range <first> <last>   Every character between two characters, inclusive.
  nfc <text>             NFC-normalized text.

Options:
  -f, --flavor <flavor>  re (1) or re2 (2). Default: re.
  --debug                Print diagnostics to stderr (also: RTK_DEBUG=1).
  -h, --help             Show this help message.
  -V, --version          Print version information.

Exit codes:
  0  Success.
  1  The command rejected its input.
  2  Invalid arguments.
"

/-- The message for a usage error. The help follows where the command is in doubt. -/
def UsageError.message : UsageError → String
  | noCommand => "error: no command given\n\n" ++ helpText
  | unknownCommand name => "error: unknown command '" ++ name ++ "'\n\n" ++ helpText
  | expectsOne name given =>
    "error: '" ++ name ++ "' expects 1 argument, got " ++ toString given
  | expectsTwo name given =>
    "error: '" ++ name ++ "' expects 2 arguments, got " ++ toString given
  | flavorMissing => "error: --flavor expects a value"
  | flavorRefused reason => "error: --flavor: " ++ reason.message
  | unknownOption arg => "error: unknown option '" ++ arg ++ "'"

/-! ## Reading the arguments -/

/-- The command with a name and the arguments after it. The characters of a class may be
spread over several arguments. -/
def Command.ofWords : List String → Except UsageError Command
  | [] => .error .noCommand
  | name :: args =>
    let one (make : String → Command) : Except UsageError Command :=
      match args with
      | [arg] => .ok (make arg)
      | _ => .error (.expectsOne name args.length)
    match name with
    | "escape" => one escape
    | "string" => one literal
    | "strings" => .ok (alternation args)
    | "make" => .ok (classBody (String.join args))
    | "cpoint" => one codePoint
    | "char" => one character
    | "nfc" => one compose
    | "range" =>
      match args with
      | [first, last] => .ok (range first last)
      | _ => .error (.expectsTwo name args.length)
    | _ => .error (.unknownCommand name)

/-- What the options set. Of several flavors the last one counts. -/
structure Options where
  flavor : Option Flavor := none
  debug : Bool := false
deriving DecidableEq

/-- What a list of arguments asks for. -/
inductive Invocation where
  | help
  | version
  | run (command : Command) (options : Options)
deriving DecidableEq

/-- The options with the flavor that a text gives. -/
def Options.withFlavor (options : Options) (value : Text) : Except UsageError Options :=
  match Flavor.read value with
  | .ok f => .ok { options with flavor := some f }
  | .error reason => .error (.flavorRefused reason)

/-- The command of some words together with the options before it. -/
def Invocation.ofWords (options : Options) (words : List String) :
    Except UsageError Invocation := do
  return run (← Command.ofWords words) options

/-- What the arguments ask for after the options read so far. Help and version win over
everything behind them. -/
def Invocation.read (options : Options) : List String → Except UsageError Invocation
  | [] => ofWords options []
  | arg :: rest =>
    match Argument.of arg with
    | .help => .ok help
    | .version => .ok version
    | .debug => read { options with debug := true } rest
    | .flavorNext =>
      match rest with
      | [] => .error .flavorMissing
      | value :: rest => do read (← options.withFlavor value.toList) rest
    | .flavorHere value => do read (← options.withFlavor value) rest
    | .separator => ofWords options rest
    | .unknownOption => .error (.unknownOption arg)
    | .name => ofWords options (arg :: rest)

/-- What the arguments of the program ask for. -/
def Invocation.ofArgs (args : List String) : Except UsageError Invocation := read {} args

end LiteralRegex.CommandLine
