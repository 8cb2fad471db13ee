import LiteralRegex.CommandLine.Outcome
import LiteralRegex.Proofs.Flavor.Reading

/-!
# Options in front of a command

Options are read one after the other and leave the arguments behind them alone, so options in
front of some arguments change the options that these are read with, and nothing else
(`read_options_append`).

A flavor is given in an argument of its own or in the argument of the option. The first way
takes the value as it is. The second one drops every copy of `--flavor=` in front, its own and
those of the value. Such a value is refused the first way, so both ways agree exactly when the
value does not begin with `--flavor=`.
-/

namespace LiteralRegex.CommandLine

/-! ## Dropping copies of a word -/

lemma dropLeads_append {lead : Text} (hne : lead ≠ []) (text : Text) :
    dropLeads lead (lead ++ text) = dropLeads lead text := by
  have hlead : lead ≠ [] ∧ lead.isPrefixOf (lead ++ text) :=
    ⟨hne, List.isPrefixOf_iff_prefix.mpr (List.prefix_append lead text)⟩
  rw [dropLeads, if_pos hlead, List.drop_left]

lemma dropLeads_eq_self {lead text : Text} (h : ¬ lead <+: text) : dropLeads lead text = text := by
  have hlead : ¬ (lead ≠ [] ∧ lead.isPrefixOf text) := fun hboth =>
    h (List.isPrefixOf_iff_prefix.mp hboth.2)
  rw [dropLeads, if_neg hlead]

/-- After the copies of a word comes something else. -/
lemma not_isPrefix_dropLeads {lead : Text} (hne : lead ≠ []) (text : Text) :
    ¬ lead <+: dropLeads lead text := by
  fun_induction dropLeads lead text with
  | case1 text h ih => exact ih
  | case2 text h =>
    intro hlead
    exact h ⟨hne, List.isPrefixOf_iff_prefix.mpr hlead⟩

lemma flavorLead_ne_nil : flavorLead ≠ [] := by decide

/-! ## Meanings of arguments -/

lemma toList_flavorLead_append (value : String) :
    ("--flavor=" ++ value).toList = flavorLead ++ value.toList := by
  rw [String.toList_append]
  rfl

/-- The arguments with a meaning of their own. -/
def fixedArguments : List String :=
  ["-h", "--help", "-V", "--version", "--debug", "-f", "--flavor", "--"]

/-- What other arguments mean depends on how they begin. -/
lemma Argument.of_eq_of_not_mem {arg : String} (h : arg ∉ fixedArguments) :
    Argument.of arg =
      if flavorLead.isPrefixOf arg.toList then .flavorHere (dropLeads flavorLead arg.toList)
      else if arg.toList.head? = some '-' then .unknownOption
      else .name := by
  simp only [fixedArguments, List.mem_cons, List.not_mem_nil, or_false, not_or] at h
  obtain ⟨hh, hhelp, hv, hversion, hdebug, hf, hflavor, hseparator⟩ := h
  simp only [Argument.of, hh, hhelp, hv, hversion, hdebug, hf, hflavor, hseparator, or_self,
    if_false]

/-- An argument that holds its flavor is none of the arguments with a meaning of their own. -/
lemma flavorLead_append_not_mem (value : String) :
    "--flavor=" ++ value ∉ fixedArguments := by
  have hapart : ∀ word ∈ fixedArguments, ¬ flavorLead <+: word.toList := by decide
  intro hmem
  apply hapart _ hmem
  rw [toList_flavorLead_append]
  exact List.prefix_append _ _

lemma Argument.of_flavorLead_append (value : String) :
    Argument.of ("--flavor=" ++ value) = .flavorHere (dropLeads flavorLead value.toList) := by
  have hlead : flavorLead.isPrefixOf ("--flavor=" ++ value).toList := by
    rw [toList_flavorLead_append, List.isPrefixOf_iff_prefix]
    exact List.prefix_append _ _
  rw [Argument.of_eq_of_not_mem (flavorLead_append_not_mem value), if_pos hlead,
    toList_flavorLead_append, dropLeads_append flavorLead_ne_nil]

/-! ## Reading options -/

/-- A text that gives a flavor, with the flavor. -/
structure FlavorWord where
  word : String
  flavor : Flavor
  read_word : Flavor.read word.toList = .ok flavor

/-- A word that gives a flavor does not begin as an option does. -/
lemma FlavorWord.not_isPrefix (value : FlavorWord) : ¬ flavorLead <+: value.word.toList := by
  intro h
  obtain ⟨rest, hrest⟩ := h
  have hread := value.read_word
  have hdashes : value.word.toList = '-' :: '-' :: ("flavor=".toList ++ rest) := hrest.symm
  rw [hdashes, Flavor.read_dashes] at hread
  exact absurd hread (by simp)

/-- An option that is accepted in front of a command. -/
inductive GivenOption where
  | debug
  /-- The flavor in an argument of its own, behind the short or the long name of the option. -/
  | flavorNext (short : Bool) (value : FlavorWord)
  /-- The flavor in the argument of the option. -/
  | flavorHere (value : FlavorWord)

namespace GivenOption

/-- The option as arguments. -/
def args : GivenOption → List String
  | debug => ["--debug"]
  | flavorNext short value => [if short then "-f" else "--flavor", value.word]
  | flavorHere value => ["--flavor=" ++ value.word]

/-- What the option changes. -/
def set (options : Options) : GivenOption → Options
  | debug => { options with debug := true }
  | flavorNext _ value | flavorHere value => { options with flavor := some value.flavor }

end GivenOption

lemma Options.withFlavor_word (options : Options) (value : FlavorWord) :
    options.withFlavor value.word.toList = .ok { options with flavor := some value.flavor } := by
  rw [withFlavor, value.read_word]

/-- A flavor in an argument of its own is taken as it is. -/
lemma read_flavorNext (options : Options) (short : Bool) (value : String) (rest : List String) :
    Invocation.read options ((if short then "-f" else "--flavor") :: value :: rest) =
      (options.withFlavor value.toList >>= fun o => Invocation.read o rest) := by
  have hmeaning : Argument.of (if short then "-f" else "--flavor") = .flavorNext := by
    cases short <;> decide
  rw [Invocation.read.eq_def]
  simp only [hmeaning]

/-- A flavor in the argument of the option is taken without the copies of `--flavor=` in front. -/
lemma read_flavorHere (options : Options) (value : String) (rest : List String) :
    Invocation.read options (("--flavor=" ++ value) :: rest) =
      (options.withFlavor (dropLeads flavorLead value.toList) >>= fun o =>
        Invocation.read o rest) := by
  rw [Invocation.read.eq_def]
  simp only [Argument.of_flavorLead_append]

/-- One option is read and leaves the arguments behind it alone. -/
lemma read_option_append (options : Options) (given : GivenOption) (rest : List String) :
    Invocation.read options (given.args ++ rest) = Invocation.read (given.set options) rest := by
  cases given with
  | debug =>
    have hmeaning : Argument.of "--debug" = .debug := by decide
    rw [GivenOption.args, List.singleton_append, Invocation.read.eq_def]
    simp only [hmeaning]
    rfl
  | flavorNext short value =>
    have hread := read_flavorNext options short value.word rest
    rw [options.withFlavor_word] at hread
    exact hread
  | flavorHere value =>
    have hread := read_flavorHere options value.word rest
    rw [dropLeads_eq_self value.not_isPrefix, options.withFlavor_word] at hread
    exact hread

/-- Options in front of some arguments change what these are read with, and nothing else. -/
theorem read_options_append (options : Options) (given : List GivenOption) (rest : List String) :
    Invocation.read options (given.flatMap GivenOption.args ++ rest) =
      Invocation.read (given.foldl GivenOption.set options) rest := by
  induction given generalizing options with
  | nil => rfl
  | cons o given ih =>
    rw [List.flatMap_cons, List.append_assoc, read_option_append, ih, List.foldl_cons]

/-! ## Two ways to give a flavor -/

section Spellings

variable (given : List GivenOption) (value : String) (after : List String)

/-- Arguments with the flavor in an argument of its own. -/
def flavorApart : List String :=
  given.flatMap GivenOption.args ++ ["--flavor", value] ++ after

/-- Arguments with the flavor in the argument of the option. -/
def flavorJoined : List String :=
  given.flatMap GivenOption.args ++ ["--flavor=" ++ value] ++ after

lemma ofArgs_flavorApart :
    Invocation.ofArgs (flavorApart given value after) =
      ((given.foldl GivenOption.set {}).withFlavor value.toList >>= fun o =>
        Invocation.read o after) := by
  rw [Invocation.ofArgs, flavorApart, List.append_assoc, read_options_append]
  exact read_flavorNext _ false value after

lemma ofArgs_flavorJoined :
    Invocation.ofArgs (flavorJoined given value after) =
      ((given.foldl GivenOption.set {}).withFlavor (dropLeads flavorLead value.toList) >>= fun o =>
        Invocation.read o after) := by
  rw [Invocation.ofArgs, flavorJoined, List.append_assoc, read_options_append]
  exact read_flavorHere _ value after

/-- A value that begins with `--flavor=` is refused in an argument of its own. -/
lemma ofArgs_flavorApart_of_isPrefix (hlead : flavorLead <+: value.toList) :
    Invocation.ofArgs (flavorApart given value after) =
      .error (.flavorRefused (.input (.notFlavor value.toList))) := by
  obtain ⟨rest, hrest⟩ := hlead
  have hdashes : value.toList = '-' :: '-' :: ("flavor=".toList ++ rest) := hrest.symm
  rw [ofArgs_flavorApart, Options.withFlavor, hdashes, Flavor.read_dashes]
  rfl

/-- Behind the option itself such a value is accepted, or refused as another text. -/
lemma ofArgs_flavorJoined_help_ne (hlead : flavorLead <+: value.toList) :
    Invocation.ofArgs (flavorJoined given value ["--help"]) ≠
      .error (.flavorRefused (.input (.notFlavor value.toList))) := by
  have hdropped := not_isPrefix_dropLeads flavorLead_ne_nil value.toList
  have hne : dropLeads flavorLead value.toList ≠ value.toList := by
    intro heq
    rw [heq] at hdropped
    exact hdropped hlead
  rw [ofArgs_flavorJoined, Options.withFlavor]
  cases hread : Flavor.read (dropLeads flavorLead value.toList) with
  | ok f =>
    have hhelp : ∀ o, Invocation.read o ["--help"] = .ok .help := fun o => rfl
    simp [bind, Except.bind, hhelp]
  | error reason =>
    rcases Flavor.read_eq_error hread with rfl | ⟨n, rfl⟩
    · simpa [bind, Except.bind] using hne
    · simp [bind, Except.bind]

/-- The two ways to give a flavor are the same, whatever stands around them, exactly if the value
does not begin with `--flavor=`. -/
theorem flavor_spellings_agree_iff :
    (∀ after, Invocation.ofArgs (flavorJoined given value after) =
        Invocation.ofArgs (flavorApart given value after) ∧
      ∀ setting, outcome (flavorJoined given value after) setting =
        outcome (flavorApart given value after) setting) ↔
      ¬ flavorLead <+: value.toList := by
  constructor
  · intro h hlead
    have hhelp := (h ["--help"]).1
    rw [ofArgs_flavorApart_of_isPrefix given value _ hlead] at hhelp
    exact ofArgs_flavorJoined_help_ne given value hlead hhelp
  · intro hlead after
    have hread : Invocation.ofArgs (flavorJoined given value after) =
        Invocation.ofArgs (flavorApart given value after) := by
      rw [ofArgs_flavorJoined, ofArgs_flavorApart, dropLeads_eq_self hlead]
    exact ⟨hread, fun setting => by rw [outcome, outcome, outcomeWith, outcomeWith, hread]⟩

end Spellings

/-- The value `--flavor=re2` names a flavor joined to the option, and none apart from it. -/
theorem flavor_spellings_differ_repeated :
    Invocation.ofArgs ["--flavor=--flavor=re2", "escape", "/"] ≠
      Invocation.ofArgs ["--flavor", "--flavor=re2", "escape", "/"] ∧
    (outcome ["--flavor=--flavor=re2", "escape", "/"] none).exitCode = 0 ∧
    (outcome ["--flavor", "--flavor=re2", "escape", "/"] none).exitCode = 2 := by
  decide +kernel

end LiteralRegex.CommandLine
