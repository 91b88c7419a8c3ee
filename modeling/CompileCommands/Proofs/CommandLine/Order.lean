import CompileCommands.Proofs.CommandLine.Spellings
import CompileCommands.Proofs.Program.Stages
import Mathlib.Data.List.Perm.Basic

/-!
# The order of the arguments

The arguments come in groups, each of which gives a value to an option or names the output. If the
configuration, the level of the log and the output are given at most once each, then the groups may
stand in any order, and each option may be spelled in any way. What is asked for is told by the
values alone: the inputs in their order, and what has been given for the rest. So the order of the
groups matters among the inputs only.

## Main definitions

* `Arguments.Group`: a value for an option, or an output, with `Arguments.Group.spellings` the
  arguments that give it.
* `Arguments.Spelled`: the arguments that give several groups in a row.
* `Arguments.optionsOf`: what the groups ask for.

## Main results

* `Arguments.foldlM_step_of_mem_spellings`: one group is taken as what it gives.
* `Arguments.foldlM_step_of_spelled`: all groups are taken as what they give.
* `Arguments.optionsOf_of_perm`: what is asked for does not depend on the order of the groups.
* `Program.order_of_arguments_never_matters`: the order of the groups and the spellings of the
  options make no difference to a run.
-/

namespace CompileCommands

namespace Arguments

/-- What one argument gives, or two in a row. -/
inductive Group where
  /-- A value for an option. -/
  | assign (option : ValueOption) (value : String)
  /-- An output. -/
  | output (text : String)
  deriving DecidableEq, Repr

/-- A text that can be given to an option in every spelling. It is not empty, and it begins neither
with a hyphen nor with an equals sign. -/
def IsValue (text : String) : Prop :=
  ∃ c rest, text.toList = c :: rest ∧ c ≠ '-' ∧ c ≠ '='

namespace Group

/-- The arguments that give a group, in all spellings. -/
def spellings : Group → List (List String)
  | .assign option value =>
    [[option.shortName, value], [option.shortName ++ value], [option.shortName ++ "=" ++ value],
      [option.longName, value], [option.longName ++ "=" ++ value]]
  | .output text => [[text]]

/-- A group whose text can be told from an option. The output may also be a hyphen. -/
def IsAcceptable : Group → Prop
  | .assign _ value => IsValue value
  | .output text => text = "-" ∨ IsValue text

/-- The value that a group gives to an option. -/
def valueFor? (option : ValueOption) : Group → Option String
  | .assign other value => if other = option then some value else none
  | .output _ => none

/-- The output that a group names. -/
def output? : Group → Option String
  | .assign _ _ => none
  | .output text => some text

end Group

/-- The values that groups give to an option, in their order. -/
def valuesFor (option : ValueOption) (groups : List Group) : List String :=
  groups.filterMap (·.valueFor? option)

/-- The outputs that groups name, in their order. -/
def outputs (groups : List Group) : List String :=
  groups.filterMap (·.output?)

/-- The configuration, the level and the output are given at most once each. -/
structure AtMostOnce (groups : List Group) : Prop where
  config : (valuesFor .config groups).length ≤ 1
  logLevel : (valuesFor .logLevel groups).length ≤ 1
  output : (outputs groups).length ≤ 1

/-- The arguments that give several groups in a row, each in some spelling. -/
def Spelled (groups : List Group) (arguments : List String) : Prop :=
  ∃ parts, List.Forall₂ (fun group part => part ∈ group.spellings) groups parts ∧
    arguments = parts.flatten

/-- What groups ask for. -/
def optionsOf (groups : List Group) : Options where
  output? := (outputs groups).head?
  inputs := valuesFor .input groups
  config? := (valuesFor .config groups).head?
  logLevel? := (valuesFor .logLevel groups).head?

/-! ### One group -/

namespace IsValue

variable {text : String}

theorem ne_empty (h : IsValue text) : text ≠ "" := by
  obtain ⟨c, rest, heq, -⟩ := h
  rintro rfl
  cases heq

private theorem isOptionLike_eq (h : IsValue text) : isOptionLike text.toList = false := by
  obtain ⟨c, rest, heq, hhyphen, -⟩ := h
  rw [heq]
  unfold isOptionLike
  split
  next hcons => exact absurd (List.head_eq_of_cons_eq hcons) hhyphen
  next => rfl

private theorem head?_ne_equals (h : IsValue text) : text.toList.head? ≠ some '=' := by
  obtain ⟨c, rest, heq, -, hequals⟩ := h
  rw [heq, List.head?_cons, ne_eq, Option.some_inj]
  exact hequals

end IsValue

/-- The five ways to give a value are spellings of the option. -/
private theorem spells_of_mem_spellings {option : ValueOption} {value : String} {part : List String}
    (hvalue : IsValue value) (h : part ∈ (Group.assign option value).spellings) :
    Spells option value part := by
  simp only [Group.spellings, List.mem_cons, List.not_mem_nil, or_false] at h
  rcases h with rfl | rfl | rfl | rfl | rfl
  · exact .behindShort hvalue.isOptionLike_eq
  · exact .attached hvalue.ne_empty hvalue.head?_ne_equals
  · exact .assignedShort
  · exact .behindLong hvalue.isOptionLike_eq
  · exact .assignedLong

/-- An output that does not look like an option is taken as the output. -/
theorem stepPlain_of_isAcceptable {text : String} (h : (Group.output text).IsAcceptable)
    (arguments : Arguments) : arguments.stepPlain text = arguments.giveOutput text := by
  by_cases houtputs : arguments.outputsOnly = true
  · exact if_pos houtputs
  · rw [Bool.not_eq_true] at houtputs
    rw [stepPlain_of_not_outputsOnly houtputs]
    rcases h with rfl | ⟨c, rest, heq, hhyphen, -⟩
    · rfl
    · rw [heq]
      split
      next hcons => exact absurd (List.head_eq_of_cons_eq hcons) hhyphen
      next hcons => exact absurd (List.head_eq_of_cons_eq hcons) hhyphen
      next hcons => exact absurd (List.head_eq_of_cons_eq hcons) hhyphen
      next => rfl

/-- The arguments with what a group gives. -/
def take (arguments : Arguments) : Group → Except Request Arguments
  | .assign option value => arguments.give option value
  | .output text => arguments.giveOutput text

/-- Between two groups no value is waited for, and options are still told from outputs. -/
structure IsBetween (arguments : Arguments) : Prop where
  pending?_eq : arguments.pending? = none
  outputsOnly_eq : arguments.outputsOnly = false

/-- **One group is taken as what it gives**, in every spelling. -/
theorem foldlM_step_of_mem_spellings {group : Group} {part : List String}
    (hgroup : group.IsAcceptable) (h : part ∈ group.spellings) {arguments : Arguments}
    (hbetween : arguments.IsBetween) : part.foldlM step arguments = arguments.take group := by
  cases group with
  | assign option value =>
    rw [foldlM_step_of_spells (spells_of_mem_spellings hgroup h) hbetween.outputsOnly_eq,
      hbetween.pending?_eq]
    rfl
  | output text =>
    obtain rfl : part = [text] := List.mem_singleton.1 h
    rw [List.foldlM_cons, step, hbetween.pending?_eq]
    show (arguments.stepPlain text >>= pure) = _
    rw [bind_pure, stepPlain_of_isAcceptable hgroup]
    rfl

/-! ### All groups -/

theorem valuesFor_append (option : ValueOption) (groups later : List Group) :
    valuesFor option (groups ++ later) = valuesFor option groups ++ valuesFor option later :=
  List.filterMap_append

theorem outputs_append (groups later : List Group) :
    outputs (groups ++ later) = outputs groups ++ outputs later :=
  List.filterMap_append

/-- What is given at most once, and once more, has not been given before. -/
theorem eq_nil_of_length_append {values : List String} {value : String}
    (h : (values ++ [value]).length ≤ 1) : values = [] := by
  rw [List.length_append, List.length_singleton] at h
  exact List.length_eq_zero_iff.1 (by omega)

private theorem AtMostOnce.of_append {groups later : List Group}
    (h : AtMostOnce (groups ++ later)) : AtMostOnce groups := by
  have hle (values others : List String) (h : (values ++ others).length ≤ 1) :
      values.length ≤ 1 := by
    rw [List.length_append] at h
    omega
  obtain ⟨hconfig, hlogLevel, houtput⟩ := h
  rw [valuesFor_append] at hconfig hlogLevel
  rw [outputs_append] at houtput
  exact ⟨hle _ _ hconfig, hle _ _ hlogLevel, hle _ _ houtput⟩

/-- One more value adds what it gives. -/
theorem setValue_optionsOf {groups : List Group} {option : ValueOption} {value : String}
    (hvalue : IsValue value) (honce : AtMostOnce (groups ++ [.assign option value])) :
    setValue (optionsOf groups) option value =
      .ok (optionsOf (groups ++ [.assign option value])) := by
  obtain ⟨hconfig, hlogLevel, -⟩ := honce
  rw [valuesFor_append] at hconfig hlogLevel
  cases option with
  | input =>
    rw [setValue, if_neg hvalue.ne_empty]
    simp [optionsOf, valuesFor, outputs, Group.valueFor?, Group.output?]
  | config =>
    have hnone : valuesFor .config groups = [] := eq_nil_of_length_append hconfig
    rw [setValue, if_neg (by simp [optionsOf, hnone]), if_neg hvalue.ne_empty]
    simp only [optionsOf, valuesFor_append, outputs_append, hnone]
    simp [valuesFor, outputs, Group.valueFor?, Group.output?]
  | logLevel =>
    have hnone : valuesFor .logLevel groups = [] := eq_nil_of_length_append hlogLevel
    rw [setValue, if_neg (by simp [optionsOf, hnone])]
    simp only [optionsOf, valuesFor_append, outputs_append, hnone]
    simp [valuesFor, outputs, Group.valueFor?, Group.output?]

/-- One more group adds what it gives. -/
private theorem take_optionsOf {groups : List Group} {group : Group} (hgroup : group.IsAcceptable)
    (honce : AtMostOnce (groups ++ [group])) :
    take { options := optionsOf groups } group =
      .ok { options := optionsOf (groups ++ [group]) } := by
  cases group with
  | assign option value =>
    rw [take, give, setValue_optionsOf hgroup honce]
    rfl
  | output text =>
    have houtput := honce.output
    rw [outputs_append] at houtput
    have hnone : outputs groups = [] := eq_nil_of_length_append houtput
    rw [take, giveOutput, if_neg (by simp [optionsOf, hnone])]
    simp only [optionsOf, valuesFor_append, outputs_append, hnone]
    simp [valuesFor, outputs, Group.valueFor?, Group.output?]

/-- **All groups are taken as what they give**, in every spelling. -/
theorem foldlM_step_of_spelled {groups later : List Group} {arguments : List String}
    (hgroups : ∀ group ∈ later, group.IsAcceptable) (honce : AtMostOnce (groups ++ later))
    (h : Spelled later arguments) :
    arguments.foldlM step { options := optionsOf groups } =
      .ok { options := optionsOf (groups ++ later) } := by
  obtain ⟨parts, hparts, rfl⟩ := h
  induction hparts generalizing groups with
  | nil => rw [List.append_nil]; rfl
  | @cons group part later parts hpart _ ih =>
    obtain ⟨hgroup, hlater⟩ := List.forall_mem_cons.1 hgroups
    have happend : groups ++ group :: later = groups ++ [group] ++ later := by simp
    rw [happend] at honce ⊢
    rw [List.flatten_cons, List.foldlM_append,
      foldlM_step_of_mem_spellings hgroup hpart ⟨rfl, rfl⟩,
      take_optionsOf hgroup honce.of_append]
    exact ih hlater honce

/-- What is asked for is what the groups give. -/
theorem ofArguments_of_spelled {groups : List Group} {arguments : List String}
    (hgroups : ∀ group ∈ groups, group.IsAcceptable) (honce : AtMostOnce groups)
    (h : Spelled groups arguments) :
    Request.ofArguments arguments = .run (optionsOf groups) := by
  have hfold : arguments.foldlM step {} = .ok { options := optionsOf ([] ++ groups) } :=
    @foldlM_step_of_spelled [] groups arguments hgroups honce h
  rw [Request.ofArguments, hfold]
  rfl

/-! ### Any order -/

/-- A single value stands in one order only. -/
private theorem eq_of_perm_of_length_le_one {values others : List String} (h : values.Perm others)
    (hlength : values.length ≤ 1) : values = others := by
  cases values with
  | nil => exact (List.nil_perm.1 h).symm
  | cons value rest =>
    obtain rfl : rest = [] := by
      rw [List.length_cons] at hlength
      exact List.length_eq_zero_iff.1 (by omega)
    exact List.singleton_perm.1 h

/-- What is asked for does not depend on the order of the groups, but for the order of the
inputs. -/
theorem optionsOf_of_perm {groups others : List Group} (honce : AtMostOnce groups)
    (hperm : groups.Perm others) (hinputs : valuesFor .input groups = valuesFor .input others) :
    optionsOf groups = optionsOf others := by
  have hconfig : valuesFor .config groups = valuesFor .config others :=
    eq_of_perm_of_length_le_one (hperm.filterMap _) honce.config
  have hlogLevel : valuesFor .logLevel groups = valuesFor .logLevel others :=
    eq_of_perm_of_length_le_one (hperm.filterMap _) honce.logLevel
  have houtput : outputs groups = outputs others :=
    eq_of_perm_of_length_le_one (hperm.filterMap _) honce.output
  rw [optionsOf, optionsOf, hconfig, hlogLevel, houtput, hinputs]

private theorem AtMostOnce.of_perm {groups others : List Group} (honce : AtMostOnce groups)
    (hperm : groups.Perm others) : AtMostOnce others where
  config := (hperm.filterMap _).length_eq ▸ honce.config
  logLevel := (hperm.filterMap _).length_eq ▸ honce.logLevel
  output := (hperm.filterMap _).length_eq ▸ honce.output

/-! ### An output behind an input -/

/-- A text behind the value of an input is taken as the output. If there is an output already, it is
one too many. -/
private theorem foldlM_step_input_append {value text : String} {part : List String}
    (hvalue : IsValue value) (htext : (Group.output text).IsAcceptable)
    (hpart : part ∈ (Group.assign .input value).spellings) {arguments : Arguments}
    (hbetween : arguments.IsBetween) :
    (part ++ [text]).foldlM step arguments =
      if arguments.options.output?.isSome then .error (.misuse (.extraOutput text))
      else .ok { arguments with
        options.inputs := arguments.options.inputs ++ [value], options.output? := some text } := by
  have hgive : arguments.take (.assign .input value) =
      .ok { arguments with options.inputs := arguments.options.inputs ++ [value] } := by
    rw [take, give, setValue, if_neg hvalue.ne_empty, ← hbetween.pending?_eq]
    rfl
  rw [List.foldlM_append, @foldlM_step_of_mem_spellings (.assign .input value) _ hvalue hpart _
    hbetween, hgive]
  exact foldlM_step_of_mem_spellings htext List.mem_cons_self
    ⟨hbetween.pending?_eq, hbetween.outputsOnly_eq⟩

end Arguments

namespace Program

open Arguments

/-- **The order of the arguments matters among the inputs only.** The same groups in another order
and with other spellings ask for the same, and nothing in a run tells one from the other. A text
behind the value of an input is never a further input. -/
theorem order_of_arguments_never_matters {groups others : List Group}
    {arguments arguments' : List String} (hgroups : ∀ group ∈ groups, group.IsAcceptable)
    (honce : AtMostOnce groups) (hperm : groups.Perm others)
    (hinputs : valuesFor .input groups = valuesFor .input others)
    (hspelled : Spelled groups arguments) (hspelled' : Spelled others arguments') :
    (∀ before, outcome (run arguments) before = outcome (run arguments') before) ∧
    Request.ofArguments arguments = .run (optionsOf groups) ∧
    (∀ (value text : String) (part : List String) (understood : Arguments), IsValue value →
      (Group.output text).IsAcceptable → part ∈ (Group.assign .input value).spellings →
      understood.IsBetween →
      (part ++ [text]).foldlM step understood =
        if understood.options.output?.isSome then .error (.misuse (.extraOutput text))
        else .ok { understood with
          options.inputs := understood.options.inputs ++ [value],
          options.output? := some text }) := by
  have hasked := ofArguments_of_spelled hgroups honce hspelled
  have hgroups' : ∀ group ∈ others, group.IsAcceptable := fun group hgroup =>
    hgroups group (hperm.mem_iff.2 hgroup)
  have hasked' := ofArguments_of_spelled hgroups' (honce.of_perm hperm) hspelled'
  refine ⟨fun before => ?_, hasked, fun value text part understood hvalue htext hpart hbetween =>
    foldlM_step_input_append hvalue htext hpart hbetween⟩
  rw [run, run, hasked, hasked', optionsOf_of_perm honce hperm hinputs]

/-- Two inputs among the other groups, in another order and with other spellings. -/
theorem order_of_two_inputs_beside_level :
    let groups : List Group :=
      [.assign .input "a log", .output "-", .assign .logLevel "debug", .assign .input "b"]
    let others : List Group :=
      [.assign .logLevel "debug", .assign .input "a log", .assign .input "b", .output "-"]
    let arguments := ["-i", "a log", "-", "--log-level=debug", "-ib"]
    let arguments' := ["-l=debug", "--input", "a log", "--input=b", "-"]
    (∀ group ∈ groups, group.IsAcceptable) ∧ AtMostOnce groups ∧ groups.Perm others ∧
      valuesFor .input groups = valuesFor .input others ∧
      Spelled groups arguments ∧ Spelled others arguments' ∧
      (∀ before, outcome (run arguments) before = outcome (run arguments') before) ∧
      Request.ofArguments arguments =
        .run { output? := some "-", inputs := ["a log", "b"], logLevel? := some "debug" } ∧
      ["-ia", "b"].foldlM step {} =
        .ok { options := { inputs := ["a"], output? := some "b" } } := by
  intro groups others arguments arguments'
  have hvalue (c : Char) (rest : List Char) (hc : c ≠ '-' ∧ c ≠ '=') :
      IsValue (String.ofList (c :: rest)) := ⟨c, rest, String.toList_ofList, hc⟩
  have hgroups : ∀ group ∈ groups, group.IsAcceptable := by
    simp only [groups, List.forall_mem_cons]
    exact ⟨hvalue 'a' _ (by decide), .inl rfl, hvalue 'd' _ (by decide), hvalue 'b' _ (by decide),
      fun _ hmem => absurd hmem List.not_mem_nil⟩
  have honce : AtMostOnce groups := ⟨by decide, by decide, by decide⟩
  have hperm : groups.Perm others := by decide
  have hinputs : valuesFor .input groups = valuesFor .input others := by decide
  have hspelled : Spelled groups arguments :=
    ⟨[["-i", "a log"], ["-"], ["--log-level=debug"], ["-ib"]],
      .cons (by decide) (.cons (by decide) (.cons (by decide) (.cons (by decide) .nil))), rfl⟩
  have hspelled' : Spelled others arguments' :=
    ⟨[["-l=debug"], ["--input", "a log"], ["--input=b"], ["-"]],
      .cons (by decide) (.cons (by decide) (.cons (by decide) (.cons (by decide) .nil))), rfl⟩
  obtain ⟨hruns, hasked, hbehind⟩ :=
    order_of_arguments_never_matters hgroups honce hperm hinputs hspelled hspelled'
  exact ⟨hgroups, honce, hperm, hinputs, hspelled, hspelled', hruns, hasked,
    hbehind "a" "b" ["-ia"] {} (hvalue 'a' [] (by decide)) (.inr (hvalue 'b' [] (by decide)))
      (by decide) ⟨rfl, rfl⟩⟩

end Program

end CompileCommands
