import LiteralRegex.CommandLine.Outcome
import LiteralRegex.Proofs.CodePoint.Reading
import LiteralRegex.Proofs.Report
import LiteralRegex.Proofs.Session.Default

/-!
# Exit codes

A flavor that is given has been read from the arguments, and the default is the initial one, so the
flavor of a command is always settled. What is left to fail is the input of four commands, and
`Command.RefusedFor` says which input each of them refuses and how that is told. No other error comes
out of a command (`Command.result_output_eq_error_iff`), so the exit code is known from the command.
-/

namespace LiteralRegex.CommandLine

/-! ## Refused commands -/

/-- Holds of a command that refuses its input, and of what is wrong with it. Of two ends the first one
is looked at first. -/
def Command.RefusedFor (command : Command) (d : InputError) : Prop :=
  match command with
  | escape char | codePoint char => char.length ≠ 1 ∧ d = .notOneCharacter char.toList
  | range first last =>
    (first.length ≠ 1 ∧ d = .notOneCharacter first.toList) ∨
      (first.length = 1 ∧ last.length ≠ 1 ∧ d = .notOneCharacter last.toList)
  | character digits =>
    (¬ CodePoint.IsDigits digits.toList ∧ d = .notHexadecimal digits.toList) ∨
      (CodePoint.IsDigits digits.toList ∧
        (Unicode.IsSurrogate (Text.Hex.value digits.toList) ∨
          0x10FFFF < Text.Hex.value digits.toList) ∧
        d = .notScalarValue digits.toList)
  | literal _ | alternation _ | classBody _ | compose _ => False

/-- Holds of the commands that take any text. -/
def Command.TakesAnyText : Command → Prop
  | literal _ | alternation _ | classBody _ | compose _ => True
  | escape _ | codePoint _ | character _ | range _ _ => False

lemma Command.TakesAnyText.not_refusedFor {command : Command} (h : command.TakesAnyText)
    (d : InputError) : ¬ command.RefusedFor d := by
  cases command with
  | literal _ | alternation _ | classBody _ | compose _ => exact id
  | escape _ | codePoint _ | character _ | range _ _ => exact h.elim

/-! ## The errors of commands -/

/-- The flavor that options choose is the given one, or else the initial default. -/
lemma Options.result_resolve_choice (options : Options) :
    (options.choice.resolve .initial).result = .ok (options.flavor.getD .re) := by
  rcases options with ⟨_ | f, _⟩
  · rfl
  · rfl

/-- A command that writes a fragment fails where the fragment cannot be built. -/
lemma result_fragment_eq_error_iff {options : Options} {r : Request} {e : Error} :
    (String.ofList <$> r.answer .initial options.choice).result = .error e ↔
      r.build (options.flavor.getD .re) = .error e := by
  rw [Report.result_map, map_eq_error_iff, r.result_answer, options.result_resolve_choice]
  rfl

/-- What is done with the one character of a text fails where the text is not one character. -/
lemma single_bind_eq_error_iff {text : String} {write : Char → String} {e : Error} :
    (Text.single text.toList >>= fun c => pure (write c)) = .error e ↔
      text.length ≠ 1 ∧ e = .input (.notOneCharacter text.toList) := by
  rw [bind_eq_error_iff, Text.single_eq_error_iff, String.length_toList]
  simp [pure, Except.pure]

lemma result_range_eq_error_iff {options : Options} {first last : String} {e : Error} :
    ((Command.range first last).output options.choice).result = .error e ↔
      (first.length ≠ 1 ∧ e = .input (.notOneCharacter first.toList)) ∨
        (first.length = 1 ∧ last.length ≠ 1 ∧ e = .input (.notOneCharacter last.toList)) := by
  show (Text.single first.toList >>= fun a =>
    Text.single last.toList >>= fun b => pure (String.ofList (CharRange.mk a b).toList)) =
      .error e ↔ _
  rw [bind_eq_error_iff]
  simp only [single_bind_eq_error_iff, exists_and_right, Text.single_eq_error_iff,
    Text.exists_single_eq_ok_iff, String.length_toList]

/-- The only errors of commands are those of refused input, whatever the options are. -/
theorem Command.result_output_eq_error_iff {command : Command} {options : Options} {e : Error} :
    (command.output options.choice).result = .error e ↔
      ∃ d, command.RefusedFor d ∧ e = .input d := by
  cases command with
  | escape char =>
    rw [Command.output, result_fragment_eq_error_iff]
    show (Text.single char.toList).map _ = .error e ↔ _
    rw [map_eq_error_iff, Text.single_eq_error_iff, String.length_toList]
    simp only [RefusedFor, and_assoc, exists_and_left, exists_eq_left]
  | codePoint char =>
    refine single_bind_eq_error_iff.trans ?_
    simp only [RefusedFor, and_assoc, exists_and_left, exists_eq_left]
  | character digits =>
    show (CodePoint.readChar digits.toList >>= fun c => pure (String.ofList [c])) = .error e ↔ _
    rw [bind_eq_error_iff, CodePoint.readChar_eq_error_iff, Unicode.scalar?_eq_none_iff]
    simp only [pure, Except.pure, reduceCtorEq, and_false, exists_false, or_false,
      RefusedFor, or_and_right, exists_or, and_assoc, exists_and_left, exists_eq_left]
  | range first last =>
    rw [result_range_eq_error_iff]
    simp only [RefusedFor, or_and_right, exists_or, and_assoc, exists_and_left, exists_eq_left]
  | literal text | alternation text | classBody text =>
    rw [Command.output, result_fragment_eq_error_iff]
    simp [Request.build, RefusedFor]
  | compose text => simp [output, RefusedFor]

/-! ## What an invocation leaves -/

/-- The text that an invocation asks for, or the error instead. -/
def Invocation.text : Invocation → Except Error String
  | help => .ok helpText
  | version => .ok ("rtk " ++ CommandLine.version)
  | run command options => (command.output options.choice).result

/-- Holds of an invocation whose command refuses its input, and of what is wrong with that. -/
def Invocation.RefusedFor (i : Invocation) (d : InputError) : Prop :=
  match i with
  | help | version => False
  | run command _ => command.RefusedFor d

lemma Invocation.text_eq_error_iff {i : Invocation} {e : Error} :
    i.text = .error e ↔ ∃ d, i.RefusedFor d ∧ e = .input d := by
  cases i with
  | help => simp [text, RefusedFor]
  | version => simp [text, RefusedFor]
  | run command options => exact Command.result_output_eq_error_iff

lemma Invocation.RefusedFor.text_eq {i : Invocation} {d : InputError} (h : i.RefusedFor d) :
    i.text = .error (.input d) :=
  text_eq_error_iff.mpr ⟨d, h, rfl⟩

/-- An invocation that is not refused has its text. -/
lemma Invocation.exists_text_eq {i : Invocation} (h : ∀ d, ¬ i.RefusedFor d) :
    ∃ text, i.text = .ok text := by
  cases htext : i.text with
  | error e =>
    obtain ⟨d, hrefused, -⟩ := text_eq_error_iff.mp htext
    exact absurd hrefused (h d)
  | ok text => exact ⟨text, rfl⟩

section Outcomes

variable {args : List String} {setting : Option String} {i : Invocation}

lemma outcome_of_usageError {e : UsageError} (h : Invocation.ofArgs args = .error e) :
    outcome args setting = { exitCode := 2, stdout := "", stderr := e.message ++ "\n" } := by
  rw [outcome, outcomeWith, h]

/-- The text that is asked for is what is printed, with or without diagnostics. -/
lemma outcome_of_text {text : String} (h : Invocation.ofArgs args = .ok i)
    (htext : i.text = .ok text) :
    (outcome args setting).exitCode = 0 ∧ (outcome args setting).stdout = text ++ "\n" := by
  rw [outcome, outcomeWith, h]
  cases i with
  | help =>
    rw [← Except.ok.inj htext]
    exact ⟨rfl, rfl⟩
  | version =>
    rw [← Except.ok.inj htext]
    exact ⟨rfl, rfl⟩
  | run command options =>
    simp only [Invocation.text] at htext
    simp only [Command.run, htext, and_self]

/-- The error is told behind the diagnostics, and nothing is printed. -/
lemma outcome_of_error {e : Error} (h : Invocation.ofArgs args = .ok i) (herror : i.text = .error e) :
    (outcome args setting).exitCode = 1 ∧ (outcome args setting).stdout = "" ∧
      ∃ log, (outcome args setting).stderr = log ++ "error: " ++ e.message ++ "\n" := by
  rw [outcome, outcomeWith, h]
  cases i with
  | help => cases herror
  | version => cases herror
  | run command options =>
    simp only [Invocation.text] at herror
    simp only [Command.run, herror]
    exact ⟨trivial, trivial, _, rfl⟩

lemma exitCode_eq_two_iff :
    (outcome args setting).exitCode = 2 ↔ ∃ e, Invocation.ofArgs args = .error e := by
  constructor
  · intro h
    cases hargs : Invocation.ofArgs args with
    | error e => exact ⟨e, rfl⟩
    | ok i =>
      -- both ways to go on end in another code
      cases htext : i.text with
      | error e => simp [(outcome_of_error hargs htext).1] at h
      | ok text => simp [(outcome_of_text hargs htext).1] at h
  · rintro ⟨e, hargs⟩
    rw [outcome_of_usageError hargs]

lemma exitCode_eq_one_iff :
    (outcome args setting).exitCode = 1 ↔
      ∃ i d, Invocation.ofArgs args = .ok i ∧ i.RefusedFor d := by
  constructor
  · intro h
    cases hargs : Invocation.ofArgs args with
    | error e => simp [outcome_of_usageError hargs] at h
    | ok i =>
      cases htext : i.text with
      | error e =>
        obtain ⟨d, hrefused, -⟩ := Invocation.text_eq_error_iff.mp htext
        exact ⟨i, d, rfl, hrefused⟩
      | ok text => simp [(outcome_of_text hargs htext).1] at h
  · rintro ⟨i, d, hargs, hrefused⟩
    exact (outcome_of_error hargs hrefused.text_eq).1

end Outcomes

/-- The exit code is 2 when the arguments are not understood, and then the usage error is all that is
told. It is 1 when the command refuses its input, and then nothing is printed and the error comes last.
Otherwise it is 0 and the text that is asked for is printed. A command that takes any text is never
refused, and no command ever fails over its flavor. -/
theorem exit_code_decided (args : List String) (setting : Option String) :
    ((outcome args setting).exitCode = 2 ↔ ∃ e, Invocation.ofArgs args = .error e) ∧
    (∀ e, Invocation.ofArgs args = .error e →
      outcome args setting = { exitCode := 2, stdout := "", stderr := e.message ++ "\n" }) ∧
    ((outcome args setting).exitCode = 1 ↔
      ∃ i d, Invocation.ofArgs args = .ok i ∧ i.RefusedFor d) ∧
    (∀ i d, Invocation.ofArgs args = .ok i → i.RefusedFor d →
      (outcome args setting).stdout = "" ∧
      ∃ log, (outcome args setting).stderr =
        log ++ "error: " ++ (Error.input d).message ++ "\n") ∧
    (∀ i, Invocation.ofArgs args = .ok i → (∀ d, ¬ i.RefusedFor d) →
      (outcome args setting).exitCode = 0 ∧
      ∃ text, i.text = .ok text ∧ (outcome args setting).stdout = text ++ "\n") ∧
    (∀ command options, Invocation.ofArgs args = .ok (.run command options) →
      command.TakesAnyText → (outcome args setting).exitCode ≠ 1) ∧
    ∀ (command : Command) (options : Options) (e : Error),
      (command.output options.choice).result = .error e → e.IsInput := by
  refine ⟨exitCode_eq_two_iff, fun e => outcome_of_usageError, exitCode_eq_one_iff, ?_, ?_, ?_, ?_⟩
  · intro i d hargs hrefused
    exact (outcome_of_error hargs hrefused.text_eq).2
  · intro i hargs haccepted
    obtain ⟨text, htext⟩ := Invocation.exists_text_eq haccepted
    have hoccurs : (outcome args setting).exitCode = 0 ∧
        (outcome args setting).stdout = text ++ "\n" := outcome_of_text hargs htext
    exact ⟨hoccurs.1, text, htext, hoccurs.2⟩
  · intro command options hargs hany hcode
    obtain ⟨i, d, hi, hrefused⟩ := exitCode_eq_one_iff.mp hcode
    obtain rfl : .run command options = i := Except.ok.inj (hargs.symm.trans hi)
    exact hany.not_refusedFor d hrefused
  · intro command options e herror
    obtain ⟨d, -, rfl⟩ := Command.result_output_eq_error_iff.mp herror
    exact trivial

/-- A flavor is missing, an end of a range is missing, a character has a number, and there is nothing to
alternate. Diagnostics are asked for each time. -/
theorem exit_code_decided_each :
    Invocation.ofArgs ["--debug", "-f"] = .error .flavorMissing ∧
    outcome ["--debug", "-f"] (some "1") =
      { exitCode := 2, stdout := "", stderr := "error: --flavor expects a value\n" } ∧
    Invocation.ofArgs ["--debug", "-f", "re2", "range", "a", ""] =
      .ok (.run (.range "a" "") ⟨some .re2, true⟩) ∧
    (Invocation.run (.range "a" "") ⟨some .re2, true⟩).RefusedFor (.notOneCharacter []) ∧
    (outcome ["--debug", "-f", "re2", "range", "a", ""] none).exitCode = 1 ∧
    (outcome ["--debug", "-f", "re2", "range", "a", ""] none).stdout = "" ∧
    Invocation.ofArgs ["char", "00b0"] = .ok (.run (.character "00b0") {}) ∧
    (∀ d, ¬ (Invocation.run (.character "00b0") {}).RefusedFor d) ∧
    (outcome ["char", "00b0"] (some "")).exitCode = 0 ∧
    (outcome ["char", "00b0"] (some "")).stdout = "°\n" ∧
    Invocation.ofArgs ["strings"] = .ok (.run (.alternation []) {}) ∧
    (Command.alternation []).TakesAnyText ∧
    (outcome ["strings"] (some "")).exitCode ≠ 1 ∧
    ((Command.escape "").output (Options.choice {})).result =
      .error (.input (.notOneCharacter [])) ∧
    (Error.input (.notOneCharacter [])).IsInput := by
  have husage : Invocation.ofArgs ["--debug", "-f"] = .error .flavorMissing := by decide
  have hrange : Invocation.ofArgs ["--debug", "-f", "re2", "range", "a", ""] =
      .ok (.run (.range "a" "") ⟨some .re2, true⟩) := by decide +kernel
  have hrefused : (Invocation.run (.range "a" "") ⟨some .re2, true⟩).RefusedFor
      (.notOneCharacter []) := .inr ⟨rfl, by decide, rfl⟩
  have hchar : Invocation.ofArgs ["char", "00b0"] = .ok (.run (.character "00b0") {}) := by decide
  have haccepted : ∀ d, ¬ (Invocation.run (.character "00b0") {}).RefusedFor d := by
    rintro d (⟨hdigits, -⟩ | ⟨-, hnone, -⟩)
    · exact hdigits (by decide)
    · exact absurd hnone (by decide)
  have hstrings : Invocation.ofArgs ["strings"] = .ok (.run (.alternation []) {}) := by decide
  have hempty : ((Command.escape "").output (Options.choice {})).result =
      .error (.input (.notOneCharacter [])) := by decide
  obtain ⟨-, htwo, -⟩ := exit_code_decided ["--debug", "-f"] (some "1")
  obtain ⟨-, -, hone, htold, -⟩ :=
    exit_code_decided ["--debug", "-f", "re2", "range", "a", ""] none
  obtain ⟨-, -, -, -, hprinted, -⟩ := exit_code_decided ["char", "00b0"] (some "")
  obtain ⟨-, -, -, -, -, hany, hflavor⟩ := exit_code_decided ["strings"] (some "")
  obtain ⟨hcode, text, htext, hstdout⟩ := hprinted _ hchar haccepted
  have hdegree : (Invocation.run (.character "00b0") {}).text = .ok "°" := by decide
  obtain rfl : "°" = text := Except.ok.inj (hdegree.symm.trans htext)
  exact ⟨husage, htwo _ husage, hrange, hrefused, hone.mpr ⟨_, _, hrange, hrefused⟩,
    (htold _ _ hrange hrefused).1, hchar, haccepted, hcode, hstdout, hstrings, trivial,
    hany _ _ hstrings trivial, hempty, hflavor _ _ _ hempty⟩

end LiteralRegex.CommandLine
