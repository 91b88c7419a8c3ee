import CompileCommands.CommandLine.Arguments

/-!
# The spellings of an option

An option that takes a value has five spellings. The value stands in the next argument, behind the
short or the long name, or it is attached to the name in the same argument, to the short one with or
without an equals sign, to the long one with an equals sign. All of them do the same, and all of
them are refused in the place of the value of another option.

## Main definitions

* `ValueOption.shortName`, `ValueOption.longName`: an option with its hyphens.
* `Arguments.Spells`: the spellings of an option with a value.

## Main results

* `Arguments.foldlM_step_of_spells`: all spellings do the same.
-/

namespace CompileCommands

open Text (divide divide_append_cons divide_of_notMem)

namespace ValueOption

/-- The short spelling of an option, with its hyphen. -/
def shortName (option : ValueOption) : String :=
  String.ofList ['-', option.short]

/-- The long spelling of an option, with its hyphens. -/
def longName (option : ValueOption) : String :=
  "--" ++ option.long

/-- No long spelling has an equals sign. -/
theorem equals_notMem_long (option : ValueOption) : '=' ∉ option.long.toList := by
  cases option <;> decide

end ValueOption

namespace Arguments

/-- The spellings of an option with a value, as one argument or as two. A value that stands by
itself must not look like an option. One that is attached to the short name must be told from a name
without a value and from an equals sign. -/
inductive Spells (option : ValueOption) (value : String) : List String → Prop
  /-- The value stands behind the short name. -/
  | behindShort (hvalue : isOptionLike value.toList = false) :
      Spells option value [option.shortName, value]
  /-- The value stands behind the long name. -/
  | behindLong (hvalue : isOptionLike value.toList = false) :
      Spells option value [option.longName, value]
  /-- The value is attached to the short name. -/
  | attached (hempty : value ≠ "") (hequals : value.toList.head? ≠ some '=') :
      Spells option value [option.shortName ++ value]
  /-- The value is attached to the short name by an equals sign. -/
  | assignedShort : Spells option value [option.shortName ++ "=" ++ value]
  /-- The value is attached to the long name by an equals sign. -/
  | assignedLong : Spells option value [option.longName ++ "=" ++ value]

/-! ### Options in front of anything else -/

section Plain

variable {arguments : Arguments}

/-- An argument that looks like an option is no value of the one before it. -/
theorem step_of_isOptionLike {argument : String} (h : isOptionLike argument.toList = true) :
    arguments.step argument =
      match arguments.pending? with
      | some option => .error (.misuse (.missingValue option))
      | none => arguments.stepPlain argument := by
  rw [step]
  cases arguments.pending? with
  | none => rfl
  | some option => exact if_pos h

/-- An argument that does not look like an option is the value of the option before it. -/
theorem step_of_pending {argument : String} {option : ValueOption}
    (hpending : arguments.pending? = some option) (h : isOptionLike argument.toList = false) :
    arguments.step argument = arguments.give option argument := by
  rw [step, hpending]
  exact if_neg (by rw [h]; decide)

/-- Until two lone hyphens are met, an argument is understood by how it begins. -/
theorem stepPlain_of_not_outputsOnly (houtputs : arguments.outputsOnly = false)
    (argument : String) :
    arguments.stepPlain argument =
      match argument.toList with
      | ['-', '-'] => .ok { arguments with outputsOnly := true }
      | '-' :: '-' :: text => arguments.stepLong argument text
      | '-' :: letter :: rest => arguments.stepShort argument letter rest
      | _ => arguments.giveOutput argument :=
  if_neg (by rw [houtputs]; decide)

variable {option : ValueOption}

/-- An argument that begins with a short name is understood by this name. -/
theorem stepPlain_short {argument : String} {rest : List Char}
    (hargument : argument.toList = '-' :: option.short :: rest)
    (houtputs : arguments.outputsOnly = false) :
    arguments.stepPlain argument = arguments.stepShort argument option.short rest := by
  rw [stepPlain_of_not_outputsOnly houtputs, hargument]
  cases option <;> rfl

/-- An argument that begins with a long name is understood by this name. -/
theorem stepPlain_long {argument : String} {rest : List Char}
    (hargument : argument.toList = '-' :: '-' :: (option.long.toList ++ rest))
    (houtputs : arguments.outputsOnly = false) :
    arguments.stepPlain argument = arguments.stepLong argument (option.long.toList ++ rest) := by
  rw [stepPlain_of_not_outputsOnly houtputs, hargument]
  cases option <;> rfl

/-- The short name alone waits for the value. -/
private theorem stepPlain_shortName (houtputs : arguments.outputsOnly = false) :
    arguments.stepPlain option.shortName = .ok { arguments with pending? := some option } := by
  have hargument : option.shortName.toList = ['-', option.short] := String.toList_ofList
  rw [stepPlain_short hargument houtputs]
  cases option <;> rfl

/-- The short name with something attached gives what is attached, without an equals sign. -/
private theorem stepPlain_shortName_append {value : String} (hempty : value ≠ "")
    (houtputs : arguments.outputsOnly = false) :
    arguments.stepPlain (option.shortName ++ value) =
      arguments.give option (attached value.toList) := by
  have hargument : (option.shortName ++ value).toList = '-' :: option.short :: value.toList := by
    simp [ValueOption.shortName]
  have hne : value.toList ≠ [] := by simpa using hempty
  rw [stepPlain_short hargument houtputs]
  obtain ⟨c, rest, hcons⟩ := List.exists_cons_of_ne_nil hne
  rw [hcons]
  cases option <;> rfl

/-- The long name alone waits for the value. -/
private theorem stepPlain_longName (houtputs : arguments.outputsOnly = false) :
    arguments.stepPlain option.longName = .ok { arguments with pending? := some option } := by
  have hargument : option.longName.toList = '-' :: '-' :: (option.long.toList ++ []) := by
    simp [ValueOption.longName]
  have hsplit : splitLong (option.long.toList ++ []) = (option.long, none) := by
    rw [List.append_nil, splitLong, divide_of_notMem option.equals_notMem_long]
    simp
  rw [stepPlain_long hargument houtputs, stepLong, hsplit]
  cases option <;> rfl

/-- The long name with a value attached gives the value. -/
private theorem stepPlain_longName_append (value : String)
    (houtputs : arguments.outputsOnly = false) :
    arguments.stepPlain (option.longName ++ "=" ++ value) = arguments.give option value := by
  have hargument : (option.longName ++ "=" ++ value).toList =
      '-' :: '-' :: (option.long.toList ++ '=' :: value.toList) := by simp [ValueOption.longName]
  have hsplit : splitLong (option.long.toList ++ '=' :: value.toList) =
      (option.long, some value) := by
    rw [splitLong, divide_append_cons option.equals_notMem_long]
    simp
  rw [stepPlain_long hargument houtputs, stepLong, hsplit]
  cases option <;> rfl

end Plain

/-! ### All spellings do the same -/

private theorem attached_of_head?_ne {value : String} (h : value.toList.head? ≠ some '=') :
    attached value.toList = value := by
  rw [attached.eq_def]
  split
  next heq => exact absurd (by rw [heq]; rfl) h
  next => exact String.ofList_toList

private theorem attached_equals (value : String) : attached ("=" ++ value).toList = value := by
  simp [attached]

private theorem isOptionLike_shortName_append (option : ValueOption) (value : String) :
    isOptionLike (option.shortName ++ value).toList = true := by
  simp [ValueOption.shortName, isOptionLike]

private theorem isOptionLike_longName_append (option : ValueOption) (value : String) :
    isOptionLike (option.longName ++ value).toList = true := by
  simp [ValueOption.longName, isOptionLike]

section Spells

variable {option : ValueOption} {value : String} {given : List String}

/-- The value that stands behind a name. -/
theorem foldlM_step_name {arguments : Arguments} {name : String}
    (hname : arguments.stepPlain name = .ok { arguments with pending? := some option })
    (hlike : isOptionLike name.toList = true) (hvalue : isOptionLike value.toList = false)
    (hpending : arguments.pending? = none) :
    [name, value].foldlM step arguments = arguments.give option value := by
  have hstep : arguments.step name = .ok { arguments with pending? := some option } := by
    rw [step_of_isOptionLike hlike, hpending]
    exact hname
  rw [List.foldlM_cons, hstep]
  show (step { arguments with pending? := some option } value >>= pure) = _
  rw [bind_pure, step_of_pending rfl hvalue]
  rfl

/-- The name that a value is attached to. -/
theorem foldlM_step_attached {arguments : Arguments} {argument : String}
    (hargument : arguments.stepPlain argument = arguments.give option value)
    (hlike : isOptionLike argument.toList = true) (hpending : arguments.pending? = none) :
    [argument].foldlM step arguments = arguments.give option value := by
  rw [List.foldlM_cons, step_of_isOptionLike hlike, hpending]
  show (arguments.stepPlain argument >>= pure) = _
  rw [bind_pure, hargument]

/-- Every spelling begins with an argument that looks like an option. -/
theorem Spells.exists_cons (h : Spells option value given) :
    ∃ argument rest, given = argument :: rest ∧ isOptionLike argument.toList = true := by
  cases h with
  | behindShort hvalue =>
    exact ⟨_, _, rfl, by simpa using isOptionLike_shortName_append option ""⟩
  | behindLong hvalue => exact ⟨_, _, rfl, by simpa using isOptionLike_longName_append option ""⟩
  | attached => exact ⟨_, _, rfl, isOptionLike_shortName_append option value⟩
  | assignedShort =>
    exact ⟨_, _, rfl, by
      rw [String.append_assoc]
      exact isOptionLike_shortName_append option _⟩
  | assignedLong =>
    exact ⟨_, _, rfl, by
      rw [String.append_assoc]
      exact isOptionLike_longName_append option _⟩

/-- **All spellings of an option do the same.** None of them is taken for the value of the option
before it. -/
theorem foldlM_step_of_spells (h : Spells option value given) {arguments : Arguments}
    (houtputs : arguments.outputsOnly = false) :
    given.foldlM step arguments =
      match arguments.pending? with
      | some other => .error (.misuse (.missingValue other))
      | none => arguments.give option value := by
  obtain ⟨argument, rest, heq, hlike⟩ := h.exists_cons
  cases hpending : arguments.pending? with
  | some other =>
    rw [heq, List.foldlM_cons, step_of_isOptionLike hlike, hpending]
    rfl
  | none =>
    cases h with
    | behindShort hvalue =>
      cases heq
      exact foldlM_step_name (stepPlain_shortName houtputs) hlike hvalue hpending
    | behindLong hvalue =>
      cases heq
      exact foldlM_step_name (stepPlain_longName houtputs) hlike hvalue hpending
    | attached hempty hequals =>
      cases heq
      refine foldlM_step_attached ?_ hlike hpending
      rw [stepPlain_shortName_append hempty houtputs, attached_of_head?_ne hequals]
    | assignedShort =>
      cases heq
      refine foldlM_step_attached ?_ hlike hpending
      rw [String.append_assoc, stepPlain_shortName_append (by simp) houtputs, attached_equals]
    | assignedLong =>
      cases heq
      exact foldlM_step_attached (stepPlain_longName_append value houtputs) hlike hpending

end Spells

end Arguments

end CompileCommands
