import LiteralRegex.Proofs.CommandLine.Earlier

/-!
# Diagnostics

A command leaves what its result leaves, and diagnostics put its log in front of what is told
(`Command.run_eq`). The result does not depend on whether they are on, so exit code, printed text and the
error at the end stay as they are. How a logger writes its lines makes no difference to that, and the log
is all that it decides (`exists_outcomeWith_eq_behind`).

There are two ways to ask for diagnostics, and they are the same: the option in front of all arguments
does what the variable of the environment does (`outcomeWith_debug`).
-/

namespace LiteralRegex.CommandLine

/-! ## What diagnostics add -/

/-- The outcome with a text in front of what is told. -/
def Outcome.behind (o : Outcome) (log : String) : Outcome := { o with stderr := log ++ o.stderr }

/-- What a result leaves without diagnostics. -/
def Outcome.ofResult : Except Error String → Outcome
  | .ok text => { exitCode := 0, stdout := text ++ "\n" }
  | .error e => { exitCode := 1, stderr := "error: " ++ e.message ++ "\n" }

/-- What diagnostics tell of a command. -/
def Command.records (command : Command) (options : Options) : List LogRecord :=
  openingRecord command options :: (command.output options.choice).notices.map Notice.record

lemma Outcome.behind_empty (o : Outcome) : o.behind "" = o := by
  unfold behind
  rw [String.empty_append]

section Outcomes

variable {logger : LogRecord → String} {args : List String} {command : Command} {options : Options}

lemma logText_nil : logText logger [] = "" := rfl

lemma logText_cons (r : LogRecord) (records : List LogRecord) :
    logText logger (r :: records) = logger r ++ "\n" ++ logText logger records := by
  simp [logText]

/-- Diagnostics put the log in front of what the result leaves, and change nothing else. -/
lemma Command.run_eq (command : Command) (options : Options) (diagnostics : Bool) :
    command.run logger options diagnostics =
      (Outcome.ofResult (command.output options.choice).result).behind
        (logText logger (if diagnostics then command.records options else [])) := by
  have hlog : logText logger (if diagnostics then command.records options else []) =
      if diagnostics then logText logger (command.records options) else "" := by
    rw [apply_ite (logText logger), logText_nil]
  rw [hlog]
  cases hresult : (command.output options.choice).result with
  | ok text =>
    simp only [run, hresult, Outcome.ofResult, Outcome.behind, String.append_empty]
    rfl
  | error e =>
    simp only [run, hresult, Outcome.ofResult, Outcome.behind, String.append_assoc]
    rfl

/-- Of the options only the flavor matters to a command. -/
lemma Command.run_congr (command : Command) {options other : Options}
    (h : options.flavor = other.flavor) (diagnostics : Bool) :
    command.run logger options diagnostics = command.run logger other diagnostics := by
  obtain ⟨flavor, debug⟩ := options
  obtain ⟨_, other⟩ := other
  obtain rfl : flavor = _ := h
  rfl

lemma outcomeWith_of_run (h : Invocation.ofArgs args = .ok (.run command options))
    (setting : Option String) :
    outcomeWith logger args setting =
      command.run logger options (options.debug || setting.isSome) := by
  rw [outcomeWith, h]

/-- Arguments run a command, or they run none. -/
lemma exists_run_or_not_run (args : List String) :
    (∃ command options, Invocation.ofArgs args = .ok (.run command options)) ∨
      ∀ command options, Invocation.ofArgs args ≠ .ok (.run command options) := by
  by_cases hrun : ∃ command options, Invocation.ofArgs args = .ok (.run command options)
  · exact .inl hrun
  · exact .inr fun command options hargs => hrun ⟨command, options, hargs⟩

/-- Where no command is run there is nothing to diagnose, and options in front change nothing. -/
lemma outcomeWith_append_of_not_run {logger' : LogRecord → String} (given : List GivenOption)
    (h : ∀ command options, Invocation.ofArgs args ≠ .ok (.run command options))
    (setting other : Option String) :
    outcomeWith logger (given.flatMap GivenOption.args ++ args) setting =
      outcomeWith logger' args other := by
  unfold outcomeWith
  rw [ofArgs_options_append]
  cases hargs : Invocation.ofArgs args with
  | error e => rfl
  | ok i =>
    cases i with
    | help => rfl
    | version => rfl
    | run command options => exact absurd hargs (h command options)

/-- A command that does not ask for diagnostics itself has its log in front if they are on. -/
lemma outcomeWith_some_of_run (h : Invocation.ofArgs args = .ok (.run command options))
    (hquiet : options.debug = false) (value : String) :
    outcomeWith logger args (some value) =
      (outcomeWith logger args none).behind (logText logger (command.records options)) := by
  rw [outcomeWith_of_run h, outcomeWith_of_run h, hquiet, Option.isSome_some,
    Option.isSome_none, Bool.or_true, Bool.or_false, command.run_eq, command.run_eq, if_pos rfl,
    if_neg Bool.false_ne_true, logText_nil, Outcome.behind_empty]

/-- The logger writes the log in front of what is told, if the arguments ask for one themselves or the
variable is set. Nothing else depends on the logger or on the variable. -/
lemma exists_outcomeWith_eq_behind (args : List String) :
    ∃ (o : Outcome) (records : List LogRecord) (own : Bool),
      ∀ logger setting, outcomeWith logger args setting =
        o.behind (logText logger (if own || setting.isSome then records else [])) := by
  rcases exists_run_or_not_run args with ⟨command, options, hargs⟩ | hnone
  · refine ⟨.ofResult (command.output options.choice).result, command.records options,
      options.debug, fun logger setting => ?_⟩
    rw [outcomeWith_of_run hargs, command.run_eq]
  · refine ⟨outcome args none, [], false, fun logger setting => ?_⟩
    rw [ite_self]
    exact (outcomeWith_append_of_not_run [] hnone setting none).trans (Outcome.behind_empty _).symm

/-- Diagnostics put something in front of what is told, and change nothing else. -/
lemma exists_outcomeWith_some_eq_behind (args : List String) (value : String) :
    ∃ log, outcomeWith logger args (some value) = (outcomeWith logger args none).behind log := by
  obtain ⟨o, records, own, ho⟩ := exists_outcomeWith_eq_behind args
  rw [ho, ho]
  cases own with
  | true =>
    -- diagnostics are on already
    exact ⟨"", (Outcome.behind_empty _).symm⟩
  | false =>
    refine ⟨logText logger records, ?_⟩
    show o.behind (logText logger records) = (o.behind (logText logger [])).behind _
    rw [logText_nil, Outcome.behind_empty]

/-! ## Two ways to ask for diagnostics -/

/-- The option in front of all arguments does what the variable does, whatever that is set to and
whether it is set as well. -/
lemma outcomeWith_debug (args : List String) (setting : Option String) (value : String) :
    outcomeWith logger ("--debug" :: args) setting = outcomeWith logger args (some value) := by
  rcases exists_run_or_not_run args with ⟨command, options, hargs⟩ | hnone
  · have hboth : Invocation.ofArgs ("--debug" :: args) =
        .ok (.run command (options.onTopOf ⟨none, true⟩)) := ofArgs_append_of_run [.debug] hargs
    have hflavor : (options.onTopOf ⟨none, true⟩).flavor = options.flavor := Option.or_none
    have hdebug : (options.onTopOf ⟨none, true⟩).debug = true := rfl
    rw [outcomeWith_of_run hboth, outcomeWith_of_run hargs, hdebug, Bool.true_or,
      Option.isSome_some, Bool.or_true]
    exact command.run_congr hflavor true
  · exact outcomeWith_append_of_not_run [.debug] hnone setting (some value)

end Outcomes

/-- Diagnostics leave exit code and printed text as they are, and what is told without them comes last
with them. Where the arguments are not understood, or help or the version is shown, nothing more is told
at all, and a command that does not ask for diagnostics itself has exactly its log in front. The option,
the variable with any value and both together are the same. All this does not depend on how the lines of
a log look. -/
theorem diagnostics_change_no_result (logger : LogRecord → String) (args : List String)
    (value : String) :
    (∀ noisy ∈ [outcomeWith logger ("--debug" :: args) none, outcomeWith logger args (some value)],
      noisy.exitCode = (outcomeWith logger args none).exitCode ∧
      noisy.stdout = (outcomeWith logger args none).stdout ∧
      (outcomeWith logger args none).stderr.toList <:+ noisy.stderr.toList ∧
      ((∀ command options, Invocation.ofArgs args ≠ .ok (.run command options)) →
        noisy.stderr = (outcomeWith logger args none).stderr) ∧
      ∀ command options, Invocation.ofArgs args = .ok (.run command options) →
        options.debug = false →
          noisy.stderr = logText logger (command.records options) ++
            (outcomeWith logger args none).stderr) ∧
    outcomeWith logger ("--debug" :: args) (some value) =
      outcomeWith logger ("--debug" :: args) none ∧
    outcomeWith logger ("--debug" :: args) (some value) = outcomeWith logger args (some value) := by
  have hoption : outcomeWith logger ("--debug" :: args) none =
      outcomeWith logger args (some value) := outcomeWith_debug args none value
  have hboth : outcomeWith logger ("--debug" :: args) (some value) =
      outcomeWith logger args (some value) := outcomeWith_debug args (some value) value
  refine ⟨fun noisy hnoisy => ?_, by rw [hboth, hoption], hboth⟩
  obtain rfl : noisy = outcomeWith logger args (some value) := by
    rw [hoption] at hnoisy
    simpa using hnoisy
  obtain ⟨log, hlog⟩ := exists_outcomeWith_some_eq_behind args value
  refine ⟨?_, ?_, ?_, fun hnone => ?_, fun command options hargs hquiet => ?_⟩
  · rw [hlog]
    rfl
  · rw [hlog]
    rfl
  · rw [hlog]
    show _ <:+ (log ++ (outcomeWith logger args none).stderr).toList
    rw [String.toList_append]
    exact List.suffix_append _ _
  · exact congrArg Outcome.stderr (outcomeWith_append_of_not_run [] hnone (some value) none)
  · rw [outcomeWith_some_of_run hargs hquiet]
    rfl

/-- A refused character has two records in front of its error, with their places, and the version is
shown without any. -/
theorem diagnostics_change_no_result_refused :
    Invocation.ofArgs ["escape", "ab"] = .ok (.run (.escape "ab") {}) ∧
    Options.debug {} = false ∧
    logText LogRecord.line ((Command.escape "ab").records {}) =
      "[DEBUG] rtk:28: command=Escape(\"ab\") flavor=None\n" ++
        "[TRACE] regex_toolkit::config:43: no flavor given, using default RE\n" ∧
    outcomeWith LogRecord.line ["--debug", "escape", "ab"] none ∈
      [outcomeWith LogRecord.line ["--debug", "escape", "ab"] none,
        outcomeWith LogRecord.line ["escape", "ab"] (some "")] ∧
    (outcomeWith LogRecord.line ["--debug", "escape", "ab"] none).exitCode =
      (outcomeWith LogRecord.line ["escape", "ab"] none).exitCode ∧
    (outcomeWith LogRecord.line ["--debug", "escape", "ab"] none).stderr =
      logText LogRecord.line ((Command.escape "ab").records {}) ++
        (outcomeWith LogRecord.line ["escape", "ab"] none).stderr ∧
    (∀ command options, Invocation.ofArgs ["-V"] ≠ .ok (.run command options)) ∧
    outcomeWith LogRecord.line ["-V"] (some "0") ∈
      [outcomeWith LogRecord.line ["--debug", "-V"] none,
        outcomeWith LogRecord.line ["-V"] (some "0")] ∧
    (outcomeWith LogRecord.line ["-V"] (some "0")).stderr =
      (outcomeWith LogRecord.line ["-V"] none).stderr := by
  have hescape : Invocation.ofArgs ["escape", "ab"] = .ok (.run (.escape "ab") {}) := by decide
  have hversion : ∀ command options, Invocation.ofArgs ["-V"] ≠ .ok (.run command options) := by
    intro command options h
    have hshown : Invocation.ofArgs ["-V"] = .ok .version := by decide
    exact absurd (hshown.symm.trans h) (by simp)
  have hfirst : outcomeWith LogRecord.line ["--debug", "escape", "ab"] none ∈
      [outcomeWith LogRecord.line ["--debug", "escape", "ab"] none,
        outcomeWith LogRecord.line ["escape", "ab"] (some "")] := List.mem_cons_self
  have hsecond : outcomeWith LogRecord.line ["-V"] (some "0") ∈
      [outcomeWith LogRecord.line ["--debug", "-V"] none,
        outcomeWith LogRecord.line ["-V"] (some "0")] :=
    List.mem_cons_of_mem _ (List.mem_singleton_self _)
  obtain ⟨hnoisy, -⟩ := diagnostics_change_no_result LogRecord.line ["escape", "ab"] ""
  obtain ⟨hcode, -, -, -, hlog⟩ := hnoisy _ hfirst
  obtain ⟨hshown, -⟩ := diagnostics_change_no_result LogRecord.line ["-V"] "0"
  obtain ⟨-, -, -, hnone, -⟩ := hshown _ hsecond
  exact ⟨hescape, rfl, by decide +kernel, hfirst, hcode, hlog _ _ hescape rfl, hversion, hsecond,
    hnone hversion⟩

end LiteralRegex.CommandLine
