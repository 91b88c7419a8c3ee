import CompileCommands.Proofs.CommandLine.Spellings

/-!
# The level of the log on the command line

The level of the log may be given in several spellings, and its value may be any text that can be
told from an option. Arguments that differ only in how the level is given and in its value ask for
the same: if they cannot be understood, then for the same reason, and if they ask for a run, then
with options that differ in the level alone. So the level is never looked at. What counts is whether
it has been given, since it must not be given twice.

## Main definitions

* `Options.withLevel`: options with another level.
* `Arguments.GivesLevel`: the arguments that give the level.
* `Arguments.SameButLevel`: arguments that differ in how the level is given and in its value.

## Main results

* `Arguments.step_withLevel`: an argument is understood alike, whatever the level before it.
* `Arguments.foldlM_step_of_givesLevel`: all ways to give the level do the same.
* `Request.withoutLevel_ofArguments_eq`: such arguments ask for the same, but for the level.
-/

namespace CompileCommands

/-- The options with another level of the log, or with none. -/
def Options.withLevel (options : Options) (level? : Option String) : Options :=
  { options with logLevel? := level? }

namespace Options

variable (options : Options) (level? : Option String)

@[simp] theorem output?_withLevel : (options.withLevel level?).output? = options.output? := rfl

@[simp] theorem inputs_withLevel : (options.withLevel level?).inputs = options.inputs := rfl

@[simp] theorem config?_withLevel : (options.withLevel level?).config? = options.config? := rfl

end Options

/-- What is asked for, but for the level of the log. -/
def Request.withoutLevel : Request → Request
  | .run options => .run (options.withLevel none)
  | request => request

namespace Arguments

/-- The arguments with another level of the log, or with none. -/
def withLevel (arguments : Arguments) (level? : Option String) : Arguments :=
  { arguments with options := arguments.options.withLevel level? }

@[simp] theorem pending?_withLevel (arguments : Arguments) (level? : Option String) :
    (arguments.withLevel level?).pending? = arguments.pending? := rfl

@[simp] theorem outputsOnly_withLevel (arguments : Arguments) (level? : Option String) :
    (arguments.withLevel level?).outputsOnly = arguments.outputsOnly := rfl

/-- The arguments that give the level of the log. -/
inductive GivesLevel : List String → Prop
  /-- The value stands behind the option. -/
  | behind {name value : String} (hname : name = "-l" ∨ name = "--log-level")
    (hvalue : isOptionLike value.toList = false) : GivesLevel [name, value]
  /-- The value is attached to the short spelling, with or without an equals sign. -/
  | attached {value : String} (hvalue : value ≠ "") : GivesLevel ["-l" ++ value]
  /-- The value is attached to the long spelling by an equals sign. -/
  | assigned (value : String) : GivesLevel ["--log-level=" ++ value]

/-- Two lists of arguments are the same but for how the level of the log is given, and for its
value. Behind `--` no argument gives the level. -/
inductive SameButLevel : List String → List String → Prop
  /-- The arguments are the same. -/
  | same (arguments : List String) : SameButLevel arguments arguments
  /-- The first argument is the same. -/
  | argument {argument : String} {rest other : List String} (hargument : argument ≠ "--")
    (hrest : SameButLevel rest other) : SameButLevel (argument :: rest) (argument :: other)
  /-- The first arguments give the level. -/
  | level {given given' rest other : List String} (hgiven : GivesLevel given)
    (hgiven' : GivesLevel given') (hrest : SameButLevel rest other) :
    SameButLevel (given ++ rest) (given' ++ other)

/-! ### Once the level has been given -/

section WithLevel

variable {options : Options} {arguments : Arguments}

private theorem setValue_withLevel (hlevel : options.logLevel?.isSome = true) (level : String)
    (option : ValueOption) (value : String) :
    setValue (options.withLevel (some level)) option value =
      (setValue options option value).map (·.withLevel (some level)) := by
  cases option with
  | input =>
    rw [setValue, setValue]
    split <;> rfl
  | config =>
    by_cases hgiven : options.config?.isSome = true
    · simp [setValue, Options.withLevel, hgiven, Except.map]
    · by_cases hempty : value = "" <;>
        simp [setValue, Options.withLevel, hgiven, hempty, Except.map]
  | logLevel => simp [setValue, Options.withLevel, hlevel, Except.map]

theorem give_withLevel (hlevel : arguments.options.logLevel?.isSome = true) (level : String)
    (option : ValueOption) (value : String) :
    (arguments.withLevel (some level)).give option value =
      (arguments.give option value).map (·.withLevel (some level)) := by
  have hset := setValue_withLevel hlevel level option value
  rw [give, give, withLevel, hset]
  cases setValue arguments.options option value <;> rfl

private theorem giveOutput_withLevel (level : String) (output : String) :
    (arguments.withLevel (some level)).giveOutput output =
      (arguments.giveOutput output).map (·.withLevel (some level)) := by
  by_cases hgiven : arguments.options.output?.isSome = true <;>
    simp [giveOutput, withLevel, Options.withLevel, hgiven, Except.map]

private theorem stepShort_withLevel (hlevel : arguments.options.logLevel?.isSome = true)
    (level : String) (argument : String) (letter : Char) (rest : List Char) :
    (arguments.withLevel (some level)).stepShort argument letter rest =
      (arguments.stepShort argument letter rest).map (·.withLevel (some level)) := by
  unfold stepShort
  split
  · rfl
  · split
    · rfl
    · split
      · rfl
      · rfl
      · exact give_withLevel hlevel level _ _

private theorem stepLong_withLevel (hlevel : arguments.options.logLevel?.isSome = true)
    (level : String) (argument : String) (text : List Char) :
    (arguments.withLevel (some level)).stepLong argument text =
      (arguments.stepLong argument text).map (·.withLevel (some level)) := by
  simp only [stepLong]
  split
  · split <;> rfl
  · split
    · rfl
    · rfl
    · exact give_withLevel hlevel level _ _

private theorem stepPlain_withLevel (hlevel : arguments.options.logLevel?.isSome = true)
    (level : String) (argument : String) :
    (arguments.withLevel (some level)).stepPlain argument =
      (arguments.stepPlain argument).map (·.withLevel (some level)) := by
  rw [stepPlain, stepPlain, outputsOnly_withLevel]
  by_cases houtputs : arguments.outputsOnly = true
  · rw [if_pos houtputs, if_pos houtputs]
    exact giveOutput_withLevel level argument
  · rw [if_neg houtputs, if_neg houtputs]
    split
    · rfl
    · exact stepLong_withLevel hlevel level argument _
    · exact stepShort_withLevel hlevel level argument _ _
    · exact giveOutput_withLevel level argument

/-- Once the level has been given, an argument is understood alike whatever the level. -/
theorem step_withLevel (hlevel : arguments.options.logLevel?.isSome = true) (level : String)
    (argument : String) :
    (arguments.withLevel (some level)).step argument =
      (arguments.step argument).map (·.withLevel (some level)) := by
  rw [step, step, pending?_withLevel]
  cases arguments.pending? with
  | none => exact stepPlain_withLevel hlevel level argument
  | some option =>
    by_cases hlike : isOptionLike argument.toList = true
    · simp only [if_pos hlike]
      rfl
    · simp only [if_neg hlike]
      exact give_withLevel hlevel level option argument

/-- The level stays as it has been given. -/
theorem logLevel?_of_step {next : Arguments} {argument level : String}
    (hlevel : arguments.options.logLevel? = some level)
    (hstep : arguments.step argument = .ok next) : next.options.logLevel? = some level := by
  have hsome : arguments.options.logLevel?.isSome = true := by rw [hlevel, Option.isSome_some]
  have hself : arguments.withLevel (some level) = arguments := by
    rw [withLevel, Options.withLevel, ← hlevel]
  have hsame := step_withLevel hsome level argument
  rw [hself, hstep] at hsame
  rw [Except.ok.inj hsame]
  rfl

/-- Once the level has been given, all further arguments are understood alike whatever the level. -/
theorem foldlM_step_withLevel {first : String}
    (hlevel : arguments.options.logLevel? = some first) (level : String) (rest : List String) :
    rest.foldlM step (arguments.withLevel (some level)) =
      (rest.foldlM step arguments).map (·.withLevel (some level)) := by
  induction rest generalizing arguments with
  | nil => rfl
  | cons argument rest ih =>
    have hsome : arguments.options.logLevel?.isSome = true := by rw [hlevel, Option.isSome_some]
    rw [List.foldlM_cons, List.foldlM_cons, step_withLevel hsome]
    cases hstep : arguments.step argument with
    | error request => rfl
    | ok next => exact ih (logLevel?_of_step hlevel hstep)

end WithLevel

/-! ### Giving the level -/

/-- The arguments with the level of the log, which cannot be given in place of another value. -/
def giveLevel (arguments : Arguments) (value : String) : Except Request Arguments :=
  match arguments.pending? with
  | some option => .error (.misuse (.missingValue option))
  | none => arguments.give .logLevel value

/-- The arguments that give the level are spellings of its option. -/
private theorem GivesLevel.exists_spells {given : List String} (h : GivesLevel given) :
    ∃ value, Spells .logLevel value given := by
  have hshort : ValueOption.logLevel.shortName = "-l" := by decide
  have hlong : ValueOption.logLevel.longName = "--log-level" := by decide
  cases h with
  | @behind name value hname hvalue =>
    rcases hname with rfl | rfl
    · exact ⟨value, hshort ▸ .behindShort hvalue⟩
    · exact ⟨value, hlong ▸ .behindLong hvalue⟩
  | @attached value hvalue =>
    by_cases hequals : value.toList.head? = some '='
    · obtain ⟨rest, hrest⟩ := List.head?_eq_some_iff.1 hequals
      have hassigned : value = "=" ++ String.ofList rest := by
        rw [← String.toList_inj, hrest]
        simp
      refine ⟨String.ofList rest, ?_⟩
      rw [hassigned, ← String.append_assoc, ← hshort]
      exact .assignedShort
    · exact ⟨value, hshort ▸ .attached hvalue hequals⟩
  | assigned value =>
    refine ⟨value, ?_⟩
    have hname : "--log-level=" ++ value = ValueOption.logLevel.longName ++ "=" ++ value := by
      rw [hlong]
      rfl
    rw [hname]
    exact .assignedLong

/-- All ways to give the level do the same. -/
theorem foldlM_step_of_givesLevel {given : List String} (h : GivesLevel given) :
    ∃ value, ∀ arguments : Arguments, arguments.outputsOnly = false →
      given.foldlM step arguments = arguments.giveLevel value := by
  obtain ⟨value, hspells⟩ := h.exists_spells
  exact ⟨value, fun arguments houtputs => foldlM_step_of_spells hspells houtputs⟩

/-- The level can be given, or cannot whatever its value. -/
private theorem giveLevel_cases (arguments : Arguments) (value value' : String) :
    (∃ request, arguments.giveLevel value = .error request ∧
      arguments.giveLevel value' = .error request) ∨
    ∃ next, arguments.giveLevel value = .ok next ∧
      arguments.giveLevel value' = .ok (next.withLevel (some value')) ∧
      next.options.logLevel? = some value ∧ next.outputsOnly = arguments.outputsOnly := by
  cases hpending : arguments.pending? with
  | some option => exact .inl ⟨_, by rw [giveLevel, hpending], by rw [giveLevel, hpending]⟩
  | none =>
    rw [giveLevel, giveLevel, hpending]
    by_cases hgiven : arguments.options.logLevel?.isSome = true
    · have hrepeated (value : String) :
          arguments.give .logLevel value = .error (.misuse (.repeated .logLevel)) := by
        rw [give, setValue, if_pos hgiven]
        rfl
      exact .inl ⟨_, hrepeated value, hrepeated value'⟩
    · have hset (value : String) : arguments.give .logLevel value =
          .ok { arguments with options := arguments.options.withLevel (some value),
                               pending? := none } := by
        rw [give, setValue, if_neg hgiven]
        rfl
      exact .inr ⟨_, hset value, hset value', rfl, rfl⟩

/-! ### Lists of arguments -/

section Outputs

variable {arguments next : Arguments}

theorem outputsOnly_of_give {option : ValueOption} {value : String}
    (h : arguments.give option value = .ok next) : next.outputsOnly = arguments.outputsOnly := by
  rw [give] at h
  cases hset : setValue arguments.options option value with
  | error request =>
    rw [hset] at h
    cases h
  | ok options =>
    rw [hset] at h
    cases h
    rfl

private theorem outputsOnly_of_giveOutput {output : String}
    (h : arguments.giveOutput output = .ok next) :
    next.outputsOnly = arguments.outputsOnly := by
  rw [giveOutput] at h
  split at h
  · cases h
  · cases h
    rfl

private theorem outputsOnly_of_stepShort {argument : String} {letter : Char} {rest : List Char}
    (h : arguments.stepShort argument letter rest = .ok next) :
    next.outputsOnly = arguments.outputsOnly := by
  unfold stepShort at h
  split at h
  · cases h
  · split at h
    · cases h
    · split at h
      · cases h
      · cases h
        rfl
      · exact outputsOnly_of_give h

private theorem outputsOnly_of_stepLong {argument : String} {text : List Char}
    (h : arguments.stepLong argument text = .ok next) :
    next.outputsOnly = arguments.outputsOnly := by
  simp only [stepLong] at h
  split at h
  · split at h <;> cases h
  · split at h
    · cases h
    · cases h
      rfl
    · exact outputsOnly_of_give h

/-- Only two lone hyphens make all further arguments outputs. -/
private theorem outputsOnly_of_step {argument : String} (hargument : argument ≠ "--")
    (houtputs : arguments.outputsOnly = false) (h : arguments.step argument = .ok next) :
    next.outputsOnly = false := by
  rw [← houtputs]
  rw [step] at h
  cases hpending : arguments.pending? with
  | none =>
    rw [hpending] at h
    simp only at h
    rw [stepPlain_of_not_outputsOnly houtputs] at h
    split at h
    next htext => exact absurd (String.toList_inj.1 htext) hargument
    next => exact outputsOnly_of_stepLong h
    next => exact outputsOnly_of_stepShort h
    next => exact outputsOnly_of_giveOutput h
  | some option =>
    rw [hpending] at h
    simp only at h
    split at h
    · cases h
    · exact outputsOnly_of_give h

end Outputs

/-- **Arguments that differ in the level alone** are understood alike, but for the level. -/
theorem SameButLevel.foldlM_step_eq {first second : List String} (h : SameButLevel first second)
    {arguments : Arguments} (houtputs : arguments.outputsOnly = false) :
    (first.foldlM step arguments).map (·.withLevel none) =
      (second.foldlM step arguments).map (·.withLevel none) := by
  induction h generalizing arguments with
  | same => rfl
  | @argument argument rest other hargument _ ih =>
    rw [List.foldlM_cons, List.foldlM_cons]
    cases hstep : arguments.step argument with
    | error request => rfl
    | ok next => exact ih (outputsOnly_of_step hargument houtputs hstep)
  | @level given given' rest other hgiven hgiven' _ ih =>
    obtain ⟨value, hvalue⟩ := foldlM_step_of_givesLevel hgiven
    obtain ⟨value', hvalue'⟩ := foldlM_step_of_givesLevel hgiven'
    rw [List.foldlM_append, List.foldlM_append, hvalue arguments houtputs,
      hvalue' arguments houtputs]
    obtain ⟨request, hfirst, hsecond⟩ | ⟨next, hfirst, hsecond, hlevel, hnext⟩ :=
      arguments.giveLevel_cases value value'
    · rw [hfirst, hsecond]
      rfl
    · rw [hfirst, hsecond]
      show (rest.foldlM step next).map _ =
        (other.foldlM step (next.withLevel (some value'))).map _
      rw [foldlM_step_withLevel hlevel, ih (hnext.trans houtputs)]
      cases other.foldlM step next <;> rfl

end Arguments

namespace Request

/-- What is asked for, but for the level, can be told from what has been understood but for the
level. -/
theorem withoutLevel_ofArguments (arguments : List String) :
    (ofArguments arguments).withoutLevel =
      match (arguments.foldlM Arguments.step {}).map (·.withLevel none) with
      | .ok understood => understood.finish
      | .error request => request.withoutLevel := by
  rw [ofArguments]
  rcases arguments.foldlM Arguments.step {} with request | ⟨options, _ | option, outputsOnly⟩ <;>
    rfl

/-- **The level on the command line changes nothing but the level.** Arguments that differ in how it
is given and in its value ask for the same. -/
theorem withoutLevel_ofArguments_eq {first second : List String}
    (h : Arguments.SameButLevel first second) :
    (ofArguments first).withoutLevel = (ofArguments second).withoutLevel := by
  rw [withoutLevel_ofArguments, withoutLevel_ofArguments, h.foldlM_step_eq rfl]

end Request

end CompileCommands
