import LiteralRegex.Proofs.CommandLine.Options

/-!
# Options end at the command

Accepted options in front of some arguments only change what these are read with
(`read_options_append`), so one argument decides how the reading goes on: the name of a command or a
separator ends it, and all that follows is taken as it is; help and version end it whatever follows.

What the options change together is said of the whole list, `GivenOption.together`: the flavor that is
given last, and diagnostics if any option asks for them.
-/

namespace LiteralRegex.CommandLine

/-! ## What options set together -/

namespace GivenOption

/-- The flavor that the option gives, if it gives one. -/
def flavor? : GivenOption → Option Flavor
  | debug => none
  | flavorNext _ value | flavorHere value => some value.flavor

/-- Holds of the option that asks for diagnostics. -/
def isDebug : GivenOption → Bool
  | debug => true
  | flavorNext _ _ | flavorHere _ => false

/-- What several options set. -/
def together (given : List GivenOption) : Options where
  flavor := (given.filterMap flavor?).getLast?
  debug := given.any isDebug

lemma set_eq (options : Options) (o : GivenOption) :
    o.set options = ⟨o.flavor?.or options.flavor, options.debug || o.isDebug⟩ := by
  cases o with
  | debug => simp [set, flavor?, isDebug]
  | flavorNext short value => simp [set, flavor?, isDebug]
  | flavorHere value => simp [set, flavor?, isDebug]

/-- One after the other, options set the last of their flavors and keep diagnostics that are on. -/
lemma foldl_set (options : Options) (given : List GivenOption) :
    given.foldl set options =
      ⟨(together given).flavor.or options.flavor, options.debug || (together given).debug⟩ := by
  induction given generalizing options with
  | nil => simp [together]
  | cons o given ih =>
    rw [List.foldl_cons, ih, set_eq]
    simp only [together, List.filterMap_cons, List.any_cons, Bool.or_assoc]
    cases o.flavor? with
    | none => rfl
    | some f =>
      -- a flavor given later counts, and else this one
      rw [List.getLast?_cons]
      cases (given.filterMap flavor?).getLast? with
      | none => rfl
      | some _ => rfl

end GivenOption

lemma foldl_set_default (given : List GivenOption) :
    given.foldl GivenOption.set {} = GivenOption.together given := by
  rw [GivenOption.foldl_set, Option.or_none, Bool.false_or]

/-! ## The argument behind the options -/

/-- What does not begin with a dash is the name of a command. -/
lemma Argument.of_eq_name {name : String} (h : name.toList.head? ≠ some '-') :
    Argument.of name = .name := by
  have hdash : ∀ word ∈ fixedArguments, word.toList.head? = some '-' := by decide
  have hname : name ∉ fixedArguments := fun hmem => h (hdash name hmem)
  have hlead : ¬ flavorLead.isPrefixOf name.toList := by
    intro hprefix
    apply h
    obtain ⟨rest, hrest⟩ := List.isPrefixOf_iff_prefix.mp hprefix
    rw [← hrest]
    rfl
  rw [Argument.of_eq_of_not_mem hname, if_neg hlead, if_neg h]

lemma ofWords_eq_map (options : Options) (words : List String) :
    Invocation.ofWords options words =
      (Command.ofWords words).map fun command => .run command options := by
  rw [Invocation.ofWords]
  cases Command.ofWords words with
  | error e => rfl
  | ok command => rfl

section Endings

variable (options : Options) (rest : List String)

lemma read_name {name : String} (h : name.toList.head? ≠ some '-') :
    Invocation.read options (name :: rest) =
      (Command.ofWords (name :: rest)).map fun command => .run command options := by
  rw [Invocation.read.eq_def]
  simp only [Argument.of_eq_name h]
  exact ofWords_eq_map options (name :: rest)

lemma read_separator :
    Invocation.read options ("--" :: rest) =
      (Command.ofWords rest).map fun command => .run command options := by
  have hmeaning : Argument.of "--" = .separator := by decide
  rw [Invocation.read.eq_def]
  simp only [hmeaning]
  exact ofWords_eq_map options rest

lemma read_help {word : String} (h : word ∈ ["-h", "--help"]) :
    Invocation.read options (word :: rest) = .ok .help := by
  have hmeaning : ∀ word ∈ ["-h", "--help"], Argument.of word = .help := by decide
  rw [Invocation.read.eq_def]
  simp only [hmeaning word h]

lemma read_version {word : String} (h : word ∈ ["-V", "--version"]) :
    Invocation.read options (word :: rest) = .ok .version := by
  have hmeaning : ∀ word ∈ ["-V", "--version"], Argument.of word = .version := by decide
  rw [Invocation.read.eq_def]
  simp only [hmeaning word h]

end Endings

/-- Behind accepted options, an argument that does not begin with a dash is the name of a command. It
is read with all that follows, whatever that looks like, and so are the words behind a separator,
whatever they begin with; the options are set as they are together. Help and version are shown whatever
follows. -/
theorem options_end_at_command (given : List GivenOption) :
    (∀ name rest, name.toList.head? ≠ some '-' →
      Invocation.ofArgs (given.flatMap GivenOption.args ++ name :: rest) =
        (Command.ofWords (name :: rest)).map fun command =>
          .run command (GivenOption.together given)) ∧
    (∀ words, Invocation.ofArgs (given.flatMap GivenOption.args ++ "--" :: words) =
      (Command.ofWords words).map fun command => .run command (GivenOption.together given)) ∧
    (∀ word ∈ ["-h", "--help"], ∀ rest,
      Invocation.ofArgs (given.flatMap GivenOption.args ++ word :: rest) = .ok .help) ∧
    ∀ word ∈ ["-V", "--version"], ∀ rest,
      Invocation.ofArgs (given.flatMap GivenOption.args ++ word :: rest) = .ok .version := by
  have hread : ∀ rest, Invocation.ofArgs (given.flatMap GivenOption.args ++ rest) =
      Invocation.read (GivenOption.together given) rest := by
    intro rest
    rw [Invocation.ofArgs, read_options_append, foldl_set_default]
  refine ⟨fun name rest h => ?_, fun words => ?_, fun word h rest => ?_, fun word h rest => ?_⟩
  · rw [hread]
    exact read_name _ rest h
  · rw [hread]
    exact read_separator _ words
  · rw [hread]
    exact read_help _ rest h
  · rw [hread]
    exact read_version _ rest h

/-- Two flavors and a request for diagnostics in front, and arguments that look like options behind the
name, behind a separator and behind a request for help. -/
theorem options_end_at_command_dashes :
    ∃ given : List GivenOption,
      given.flatMap GivenOption.args = ["-f", " RE2 ", "--debug", "--flavor=1"] ∧
      "strings".toList.head? ≠ some '-' ∧
      Invocation.ofArgs (given.flatMap GivenOption.args ++ ["strings", "-h", "--", "-f"]) =
        .ok (.run (.alternation ["-h", "--", "-f"]) ⟨some .re, true⟩) ∧
      Invocation.ofArgs (given.flatMap GivenOption.args ++ ["--", "-h"]) =
        .error (.unknownCommand "-h") ∧
      "--help" ∈ ["-h", "--help"] ∧
      Invocation.ofArgs (given.flatMap GivenOption.args ++ ["--help", "--flavor=none"]) =
        .ok .help ∧
      "-V" ∈ ["-V", "--version"] ∧
      Invocation.ofArgs (given.flatMap GivenOption.args ++ ["-V", "-h"]) = .ok .version := by
  let given : List GivenOption :=
    [.flavorNext true ⟨" RE2 ", .re2, by decide +kernel⟩, .debug,
      .flavorHere ⟨"1", .re, by decide +kernel⟩]
  obtain ⟨hname, hseparator, hhelp, hversion⟩ := options_end_at_command given
  exact ⟨given, by decide, by decide, hname _ _ (by decide), hseparator _, by decide,
    hhelp _ (by decide) _, by decide, hversion _ (by decide) _⟩

end LiteralRegex.CommandLine
