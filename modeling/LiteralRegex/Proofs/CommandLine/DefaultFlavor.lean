import LiteralRegex.Proofs.CommandLine.Diagnostics
import LiteralRegex.Proofs.CommandLine.ExitCode
import LiteralRegex.Proofs.CommandLine.Requests

/-!
# The default flavor of the command line

A command without a flavor uses the initial default, which is the flavor `re`. In front of all other
arguments that flavor is only in the background, so it counts just where no other one is given, and there
it gives the result that the default gives.

Diagnostics alone can tell the difference: the record that opens the log shows the flavor that was given,
so logs of different options differ (`Command.flavor_eq_of_log_append`).
-/

namespace LiteralRegex.CommandLine

/-! ## The log shows the flavor -/

/-- What flavors are shown as does not depend on what follows the end of the line. -/
lemma flavorDisplay_append_inj {f g : Option Flavor} {a b : Text}
    (h : (flavorDisplay f).toList ++ '\n' :: a = (flavorDisplay g).toList ++ '\n' :: b) : f = g := by
  rcases f with _ | _ | _ <;> rcases g with _ | _ | _ <;> simp [flavorDisplay] at h ⊢

/-- Logs of a command that begin alike are of options with the same flavor. -/
lemma Command.flavor_eq_of_log_append {command : Command} {options other : Options} {a b : String}
    (h : logText LogRecord.lineWithoutPlace (command.records options) ++ a =
      logText LogRecord.lineWithoutPlace (command.records other) ++ b) :
    options.flavor = other.flavor := by
  have hlists := congrArg String.toList h
  simp only [records, logText_cons, LogRecord.lineWithoutPlace, LogRecord.line, openingRecord,
    String.toList_append, List.append_assoc, List.append_cancel_left_eq] at hlists
  exact flavorDisplay_append_inj hlists

/-! ## The flavor `re` in the background -/

/-- The options that give the flavor `re` and nothing else. -/
def reGiven : Options := ⟨some .re, false⟩

/-- The option that gives it. -/
def reOption : GivenOption := .flavorNext true ⟨"re", .re, by decide⟩

/-- Where no flavor is given, `re` has the result that the default has. -/
lemma Command.result_output_onTopOf_reGiven (command : Command) (options : Options) :
    (command.output (options.onTopOf reGiven).choice).result =
      (command.output options.choice).result := by
  apply result_output_congr
  rw [Options.result_resolve_choice, Options.result_resolve_choice]
  show Except.ok ((options.flavor.or (some .re)).getD .re) = _
  cases options.flavor with
  | none => rfl
  | some f => rfl

/-- With `re` in the background a command leaves the result of its own options, behind another log. -/
lemma Command.run_onTopOf_reGiven (command : Command) (logger : LogRecord → String)
    (options : Options) (diagnostics : Bool) :
    command.run logger (options.onTopOf reGiven) diagnostics =
      (Outcome.ofResult (command.output options.choice).result).behind
        (logText logger (if diagnostics then command.records (options.onTopOf reGiven) else [])) := by
  rw [command.run_eq, command.result_output_onTopOf_reGiven]

section Outcomes

variable {args : List String}

lemma outcome_re_of_run {command : Command} {options : Options}
    (h : Invocation.ofArgs args = .ok (.run command options)) :
    outcome ("-f" :: "re" :: args) none =
      command.run LogRecord.lineWithoutPlace (options.onTopOf reGiven) options.debug := by
  have hargs : Invocation.ofArgs ("-f" :: "re" :: args) =
      .ok (.run command (options.onTopOf reGiven)) := ofArgs_append_of_run [reOption] h
  rw [outcome, outcomeWith_of_run hargs, Option.isSome_none, Bool.or_false]
  rfl

lemma outcome_quiet_of_run {command : Command} {options : Options}
    (h : Invocation.ofArgs args = .ok (.run command options)) :
    outcome args none = command.run LogRecord.lineWithoutPlace options options.debug := by
  rw [outcome, outcomeWith_of_run h, Option.isSome_none, Bool.or_false]

/-- What is told of a command differs where the log has a flavor to show that it did not have before. -/
lemma stderr_re_eq_iff {command : Command} {options : Options}
    (h : Invocation.ofArgs args = .ok (.run command options)) :
    (outcome ("-f" :: "re" :: args) none).stderr = (outcome args none).stderr ↔
      ¬ (options.debug ∧ options.flavor = none) := by
  rw [outcome_re_of_run h, outcome_quiet_of_run h, command.run_onTopOf_reGiven, command.run_eq]
  show logText _ (if options.debug then _ else _) ++ _ =
    logText _ (if options.debug then _ else _) ++ _ ↔ _
  by_cases hdebug : options.debug
  · rw [if_pos hdebug, if_pos hdebug]
    constructor
    · rintro hlog ⟨-, hnone⟩
      have hflavor : options.flavor.or (some .re) = options.flavor :=
        Command.flavor_eq_of_log_append hlog
      rw [hnone] at hflavor
      cases hflavor
    · intro hgiven
      obtain ⟨f, hf⟩ := Option.ne_none_iff_exists'.mp fun hnone => hgiven ⟨hdebug, hnone⟩
      have hsame : options.onTopOf reGiven = options := by
        obtain ⟨_, debug⟩ := options
        obtain rfl := hf
        rfl
      rw [hsame]
  · rw [if_neg hdebug, if_neg hdebug]
    exact iff_of_true rfl fun hboth => hdebug hboth.1

end Outcomes

/-- The flavor `re` in front of all arguments changes neither exit code nor printed text. It changes
what is told only where the arguments ask for diagnostics and give no flavor: then the log shows it. -/
theorem default_flavor_is_re (args : List String) :
    (outcome ("-f" :: "re" :: args) none).exitCode = (outcome args none).exitCode ∧
    (outcome ("-f" :: "re" :: args) none).stdout = (outcome args none).stdout ∧
    ((outcome ("-f" :: "re" :: args) none).stderr = (outcome args none).stderr ↔
      ¬ ∃ command options, Invocation.ofArgs args = .ok (.run command options) ∧
        options.debug ∧ options.flavor = none) := by
  rcases exists_run_or_not_run args with ⟨command, options, hargs⟩ | hnone
  · have hresult : (outcome ("-f" :: "re" :: args) none).exitCode = (outcome args none).exitCode ∧
        (outcome ("-f" :: "re" :: args) none).stdout = (outcome args none).stdout := by
      rw [outcome_re_of_run hargs, outcome_quiet_of_run hargs, command.run_onTopOf_reGiven,
        command.run_eq]
      exact ⟨rfl, rfl⟩
    refine ⟨hresult.1, hresult.2, (stderr_re_eq_iff hargs).trans (not_congr ?_)⟩
    constructor
    · intro hboth
      exact ⟨command, options, hargs, hboth⟩
    · rintro ⟨_, _, hother, hboth⟩
      obtain ⟨rfl, rfl⟩ := Invocation.run.inj (Except.ok.inj (hargs.symm.trans hother))
      exact hboth
  · have hsame : outcome ("-f" :: "re" :: args) none = outcome args none :=
      outcomeWith_append_of_not_run [reOption] hnone none none
    rw [hsame]
    refine ⟨rfl, rfl, iff_of_true rfl ?_⟩
    rintro ⟨command, options, hargs, -⟩
    exact hnone command options hargs

end LiteralRegex.CommandLine
