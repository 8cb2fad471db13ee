import LiteralRegex.Proofs.CommandLine.BeforeCommand

/-!
# Options on top of earlier ones

Options that are set before some arguments are read stay in the background: a flavor among the
arguments counts instead of an earlier one, and diagnostics that are on stay on. They never decide how
the reading goes on, so the arguments can be read without them, and they are filled in afterwards
(`read_onTopOf`). Accepted options in front of some arguments are options of this kind
(`ofArgs_options_append`).
-/

namespace LiteralRegex.CommandLine

/-- The options with earlier ones in the background. -/
def Options.onTopOf (options earlier : Options) : Options where
  flavor := options.flavor.or earlier.flavor
  debug := earlier.debug || options.debug

/-- The invocation with earlier options in the background. Help and version have no use for them. -/
def Invocation.onTopOf (i : Invocation) (earlier : Options) : Invocation :=
  match i with
  | help => help
  | version => version
  | run command options => run command (options.onTopOf earlier)

section Reading

variable (options earlier : Options)

lemma Options.default_onTopOf : Options.onTopOf {} earlier = earlier := by
  show (⟨none.or earlier.flavor, earlier.debug || false⟩ : Options) = earlier
  rw [Option.none_or, Bool.or_false]

lemma Options.withDebug_onTopOf :
    Options.onTopOf { options with debug := true } earlier =
      { options.onTopOf earlier with debug := true } := by
  show (⟨options.flavor.or earlier.flavor, earlier.debug || true⟩ : Options) = _
  rw [Bool.or_true]
  rfl

lemma Options.withFlavor_onTopOf (value : Text) :
    (options.onTopOf earlier).withFlavor value =
      (options.withFlavor value).map (·.onTopOf earlier) := by
  unfold withFlavor
  cases Flavor.read value with
  | ok f => rfl
  | error reason => rfl

lemma ofWords_onTopOf (words : List String) :
    Invocation.ofWords (options.onTopOf earlier) words =
      (Invocation.ofWords options words).map (·.onTopOf earlier) := by
  rw [ofWords_eq_map, ofWords_eq_map]
  cases Command.ofWords words with
  | ok command => rfl
  | error e => rfl

/-- A flavor on the way is set on top of the earlier options, and a refused one is refused all the
same. -/
lemma withFlavor_bind_onTopOf {rest : List String}
    (hrest : ∀ o : Options, Invocation.read (o.onTopOf earlier) rest =
      (Invocation.read o rest).map (·.onTopOf earlier)) (value : Text) :
    ((options.onTopOf earlier).withFlavor value >>= fun o => Invocation.read o rest) =
      (options.withFlavor value >>= fun o => Invocation.read o rest).map (·.onTopOf earlier) := by
  rw [options.withFlavor_onTopOf]
  cases options.withFlavor value with
  | ok o => exact hrest o
  | error e => rfl

/-- Earlier options do not decide how arguments are read. -/
theorem read_onTopOf (args : List String) :
    Invocation.read (options.onTopOf earlier) args =
      (Invocation.read options args).map (·.onTopOf earlier) := by
  fun_induction Invocation.read options args with
  | case1 options => exact ofWords_onTopOf options earlier []
  | case2 options arg rest hkind | case3 options arg rest hkind | case5 options arg hkind
  | case9 options arg rest hkind =>
    -- the reading ends without a look at the options
    rw [Invocation.read.eq_def]
    simp only [hkind]
    rfl
  | case4 options arg rest hdebug ih =>
    rw [← ih, options.withDebug_onTopOf, Invocation.read.eq_def]
    simp only [hdebug]
  | case6 options arg hnext value rest ih =>
    rw [Invocation.read.eq_def]
    simp only [hnext]
    exact withFlavor_bind_onTopOf options earlier ih value.toList
  | case7 options arg rest value hhere ih =>
    rw [Invocation.read.eq_def]
    simp only [hhere]
    exact withFlavor_bind_onTopOf options earlier ih value
  | case8 options arg rest hseparator =>
    rw [Invocation.read.eq_def]
    simp only [hseparator]
    exact ofWords_onTopOf options earlier rest
  | case10 options arg rest hname =>
    rw [Invocation.read.eq_def]
    simp only [hname]
    exact ofWords_onTopOf options earlier (arg :: rest)

end Reading

/-- Accepted options in front of some arguments are in the background of what these ask for. -/
theorem ofArgs_options_append (given : List GivenOption) (args : List String) :
    Invocation.ofArgs (given.flatMap GivenOption.args ++ args) =
      (Invocation.ofArgs args).map (·.onTopOf (GivenOption.together given)) := by
  rw [Invocation.ofArgs, read_options_append, foldl_set_default]
  have hread := read_onTopOf {} (GivenOption.together given) args
  rw [Options.default_onTopOf] at hread
  exact hread

lemma ofArgs_append_of_run (given : List GivenOption) {args : List String} {command : Command}
    {options : Options} (h : Invocation.ofArgs args = .ok (.run command options)) :
    Invocation.ofArgs (given.flatMap GivenOption.args ++ args) =
      .ok (.run command (options.onTopOf (GivenOption.together given))) := by
  rw [ofArgs_options_append, h]
  rfl

end LiteralRegex.CommandLine
