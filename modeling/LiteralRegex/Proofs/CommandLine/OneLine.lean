import LiteralRegex.Proofs.CommandLine.BeforeCommand
import LiteralRegex.Proofs.CommandLine.ExitCode
import LiteralRegex.Proofs.CommandLine.Requests
import LiteralRegex.Proofs.Request.Alphabet

/-!
# One line for each fragment

A command that writes a fragment prints the fragment and a line break. In the flavor `re2` no fragment
has a line break of its own, since its alphabet has none, so exactly one line is printed whatever the
arguments of the command are.
-/

namespace LiteralRegex.CommandLine

/-- The names of the commands that write a fragment. -/
def fragmentNames : List String := ["escape", "string", "strings", "make"]

/-- Under these names only requests are made. -/
lemma exists_request?_of_ofWords {name : String} {rest : List String} {command : Command}
    (hname : name ∈ fragmentNames) (h : Command.ofWords (name :: rest) = .ok command) :
    ∃ r, command.request? = some r := by
  simp only [fragmentNames, List.mem_cons, List.not_mem_nil, or_false] at hname
  rcases hname with rfl | rfl | rfl | rfl
  · match rest, h with
    | [arg], h =>
      obtain rfl := Except.ok.inj h
      exact ⟨_, rfl⟩
  · match rest, h with
    | [arg], h =>
      obtain rfl := Except.ok.inj h
      exact ⟨_, rfl⟩
  · obtain rfl := Except.ok.inj h
    exact ⟨_, rfl⟩
  · obtain rfl := Except.ok.inj h
    exact ⟨_, rfl⟩

/-- What a command prints in the flavor `re2` is in the alphabet if it is a fragment. -/
lemma inAlphabet_of_result_output {command : Command} {options : Options} {r : Request}
    {text : String} (hre2 : options.flavor = some .re2) (hrequest : command.request? = some r)
    (h : (command.output options.choice).result = .ok text) : ∀ d ∈ text.toList, InAlphabet d := by
  rw [Command.output_of_request? hrequest, Report.result_map, map_eq_ok_iff] at h
  obtain ⟨fragment, hfragment, rfl⟩ := h
  rw [r.result_answer, options.result_resolve_choice, hre2] at hfragment
  rw [String.toList_ofList]
  exact Request.inAlphabet_of_build hfragment

/-- A line break is in no fragment. -/
lemma not_inAlphabet_newline : ¬ InAlphabet '\n' := by
  rintro (h | h)
  · exact absurd h (by decide)
  · exact absurd h (by decide)

lemma count_newline_line {line : String} (h : ∀ d ∈ line.toList, InAlphabet d) :
    (line ++ "\n").toList.count '\n' = 1 := by
  have hnone : line.toList.count '\n' = 0 :=
    List.count_eq_zero.mpr fun hmem => not_inAlphabet_newline (h _ hmem)
  rw [String.toList_append, List.count_append, hnone]
  rfl

lemma ofArgs_name (given : List GivenOption) {name : String} (h : name.toList.head? ≠ some '-')
    (rest : List String) :
    Invocation.ofArgs (given.flatMap GivenOption.args ++ name :: rest) =
      (Command.ofWords (name :: rest)).map fun command =>
        .run command (GivenOption.together given) := by
  rw [Invocation.ofArgs, read_options_append, foldl_set_default]
  exact read_name _ rest h

/-- A command that writes a fragment and ends well has printed its text. -/
lemma exists_result_of_exitCode {given : List GivenOption} {name : String} {rest : List String}
    {setting : Option String} (hname : name ∈ fragmentNames)
    (h : (outcome (given.flatMap GivenOption.args ++ name :: rest) setting).exitCode = 0) :
    ∃ command r line, Command.request? command = some r ∧
      (command.output (GivenOption.together given).choice).result = .ok line ∧
      (outcome (given.flatMap GivenOption.args ++ name :: rest) setting).stdout = line ++ "\n" := by
  have hdash : ∀ word ∈ fragmentNames, word.toList.head? ≠ some '-' := by decide
  have hargs := ofArgs_name given (hdash name hname) rest
  cases hwords : Command.ofWords (name :: rest) with
  | error e =>
    rw [hwords] at hargs
    rw [outcome_of_usageError hargs] at h
    cases h
  | ok command =>
    rw [hwords] at hargs
    obtain ⟨r, hrequest⟩ := exists_request?_of_ofWords hname hwords
    cases hresult : (command.output (GivenOption.together given).choice).result with
    | error e =>
      rw [(outcome_of_error hargs hresult).1] at h
      cases h
    | ok line => exact ⟨command, r, line, hrequest, hresult, (outcome_of_text hargs hresult).2⟩

/-- The fragments of characters in the flavor `re2` are made of exactly the characters of the alphabet,
and those of texts, of lists of texts and of lists of characters are made of no others. So a command that
writes a fragment in this flavor and ends well prints one line, with a line break at its end and nowhere
else. -/
theorem re2_fragments_one_line :
    (∀ d, (∃ c, d ∈ Flavor.re2.escape c) ↔ InAlphabet d) ∧
    (∀ text, ∀ d ∈ Flavor.re2.literal text, InAlphabet d) ∧
    (∀ texts, ∀ d ∈ Flavor.re2.alternation texts, InAlphabet d) ∧
    (∀ chars, ∀ d ∈ Flavor.re2.classBody chars, InAlphabet d) ∧
    ∀ (given : List GivenOption) (name : String) (rest : List String) (setting : Option String),
      (GivenOption.together given).flavor = some .re2 → name ∈ fragmentNames →
      (outcome (given.flatMap GivenOption.args ++ name :: rest) setting).exitCode = 0 →
      (outcome (given.flatMap GivenOption.args ++ name :: rest) setting).stdout.toList.count '\n' = 1 ∧
      ∃ line, (outcome (given.flatMap GivenOption.args ++ name :: rest) setting).stdout =
          line ++ "\n" ∧ ∀ d ∈ line.toList, InAlphabet d := by
  refine ⟨fun d => ⟨?_, fun h => ⟨d, h.mem_escape⟩⟩, fun text d h => inAlphabet_of_mem_literal h,
    fun texts d h => inAlphabet_of_mem_alternation h, fun chars d h => inAlphabet_of_mem_classBody h,
    ?_⟩
  · rintro ⟨c, h⟩
    exact inAlphabet_of_mem_escape h
  · intro given name rest setting hre2 hname hcode
    obtain ⟨command, r, line, hrequest, hresult, hstdout⟩ := exists_result_of_exitCode hname hcode
    have hline : ∀ d ∈ line.toList, InAlphabet d :=
      inAlphabet_of_result_output hre2 hrequest hresult
    refine ⟨?_, line, hstdout, hline⟩
    rw [hstdout]
    exact count_newline_line hline

/-- A text with a line break in it is printed on one line. The bar of an alternation and the hyphen of a
range are in the alphabet as well. -/
theorem re2_fragments_one_line_breaks :
    ∃ given : List GivenOption,
      given.flatMap GivenOption.args = ["-f", "re2"] ∧
      (GivenOption.together given).flavor = some .re2 ∧
      "string" ∈ fragmentNames ∧
      (outcome (given.flatMap GivenOption.args ++ ["string", "a\nb"]) none).exitCode = 0 ∧
      (outcome (given.flatMap GivenOption.args ++ ["string", "a\nb"]) none).stdout =
        "a\\x\x7b000a\x7db\n" ∧
      (outcome (given.flatMap GivenOption.args ++ ["string", "a\nb"]) none).stdout.toList.count '\n'
        = 1 ∧
      '\\' ∈ Flavor.re2.literal ['\n'] ∧ InAlphabet '\\' ∧
      '|' ∈ Flavor.re2.alternation [['a'], ['.']] ∧ InAlphabet '|' ∧
      '-' ∈ Flavor.re2.classBody ['-', 'a', 'c', 'b'] ∧ InAlphabet '-' := by
  let given : List GivenOption := [.flavorNext true ⟨"re2", .re2, by decide⟩]
  have hcode : (outcome (given.flatMap GivenOption.args ++ ["string", "a\nb"]) none).exitCode = 0 := by
    decide +kernel
  obtain ⟨-, hliterals, halternations, hclasses, hcommands⟩ := re2_fragments_one_line
  have hbackslash : '\\' ∈ Flavor.re2.literal ['\n'] := by decide +kernel
  have halternation : Flavor.re2.alternation [['a'], ['.']] = "\\.|a".toList := by cbv
  have hbar : '|' ∈ Flavor.re2.alternation [['a'], ['.']] := by
    rw [halternation]
    decide
  have hclass : Flavor.re2.classBody ['-', 'a', 'c', 'b'] = "\\-a-c".toList := by cbv
  have hhyphen : '-' ∈ Flavor.re2.classBody ['-', 'a', 'c', 'b'] := by
    rw [hclass]
    decide
  exact ⟨given, rfl, rfl, by decide, hcode, by decide +kernel,
    (hcommands given "string" ["a\nb"] none rfl (by decide) hcode).1, hbackslash,
    hliterals _ _ hbackslash, hbar, halternations _ _ hbar, hhyphen, hclasses _ _ hhyphen⟩

end LiteralRegex.CommandLine
