import CompileCommands.Config.Basic
import CompileCommands.Proofs.Toml.Locality

/-!
# The level of the log in the configuration

Two configuration files may be the same but for the text that one name is given: the same lines
stand in front, and the same text follows. Both can be read or neither, and the assignments are the
same but for the value of this one. If the name is that of the level of the log, then both are
configurations or neither is one, and they differ in the level alone. What stands in front and what
follows need not be understood.

## Main definitions

* `Toml.SameButValue`: texts that are the same but for the value of a name.
* `Config.withLevel`: a configuration with another level.

## Main results

* `Toml.SameButValue.readLines?_cases`: the assignments are the same but for one value.
* `Config.withoutLevel_parse?_eq`: the configurations are the same but for the level.
-/

namespace CompileCommands

namespace Toml

/-- Two texts are the same but for the value that a name is given in one line. -/
inductive SameButValue (key : List Char) : List Char → List Char → Prop
  /-- The first line gives the name a value. -/
  | value {start literal literal' back value value' : List Char} {form form' : Form}
    (hplace : ValueAt key (start ++ (literal ++ back)) (literal ++ back))
    (hplace' : ValueAt key (start ++ (literal' ++ back)) (literal' ++ back))
    (hread : readQuoted? (literal ++ back) = some (form, value, back))
    (hread' : readQuoted? (literal' ++ back) = some (form', value', back)) :
    SameButValue key (start ++ (literal ++ back)) (start ++ (literal' ++ back))
  /-- The first line is the same. -/
  | line {line text other : List Char} (hline : IsLine line) (hrest : SameButValue key text other) :
    SameButValue key (line ++ text) (line ++ other)

variable {key text other : List Char}

/-- Either both texts cannot be read, or their assignments are the same but for one value. -/
theorem SameButValue.readLines?_cases (h : SameButValue key text other) :
    (readLines? text = none ∧ readLines? other = none) ∨
      ∃ front back value value', readLines? text = some (front ++ ⟨key, value⟩ :: back) ∧
        readLines? other = some (front ++ ⟨key, value'⟩ :: back) := by
  induction h with
  | @value start literal literal' back value value' form form' hplace hplace' hread hread' =>
    rw [readLines?_eq, readLines?_eq (start ++ (literal' ++ back)), readLine?, readLine?,
      hplace.readContent?_eq, hplace'.readContent?_eq, hread, hread']
    simp only [Option.bind_eq_bind, Option.bind_some, Option.map_some]
    cases skipLineFeed? (skipComment (skipSpaces back)) with
    | none => exact .inl ⟨rfl, rfl⟩
    | some rest =>
      cases hrest : readLines? rest with
      | none => exact .inl ⟨by simp [hrest], by simp [hrest]⟩
      | some later =>
        exact .inr ⟨[], later, value, value', by simp [hrest], by simp [hrest]⟩
  | @line line text other hline _ ih =>
    rw [readLines?_eq, readLines?_eq (line ++ other)]
    cases hline with
    | malformed hnone => exact .inl (by rw [hnone, hnone]; exact ⟨rfl, rfl⟩)
    | @read content hread =>
      rw [hread, hread]
      rcases ih with ⟨htext, hother⟩ | ⟨front, back, value, value', htext, hother⟩
      · exact .inl ⟨by simp [htext], by simp [hother]⟩
      · exact .inr ⟨content.toList ++ front, back, value, value', by simp [htext], by simp [hother]⟩

end Toml

namespace Config

/-- The configuration with another level of the log, or with none. -/
def withLevel (config : Config) (level? : Option String) : Config :=
  { config with logLevel? := level? }

@[simp] theorem output?_withLevel (config : Config) (level? : Option String) :
    (config.withLevel level?).output? = config.output? := rfl

section WithLevel

variable {config : Config}

/-- Once the level has been given, a further assignment does the same whatever the level. -/
theorem add?_withLevel (hlevel : config.logLevel?.isSome = true) (level : String)
    (assignment : Toml.Assignment) :
    (config.withLevel (some level)).add? assignment =
      (config.add? assignment).map (·.withLevel (some level)) := by
  have hnone : config.logLevel? ≠ none := Option.isSome_iff_ne_none.1 hlevel
  simp only [add?, withLevel, hnone, reduceCtorEq, and_false, if_false]
  split <;> rfl

/-- The level stays as it has been given. -/
private theorem logLevel?_of_add? {next : Config} {assignment : Toml.Assignment} {level : String}
    (hlevel : config.logLevel? = some level) (hadd : config.add? assignment = some next) :
    next.logLevel? = some level := by
  have hsome : config.logLevel?.isSome = true := by rw [hlevel, Option.isSome_some]
  have hself : config.withLevel (some level) = config := by rw [withLevel, ← hlevel]
  have hsame := add?_withLevel hsome level assignment
  rw [hself, hadd] at hsame
  rw [Option.some.inj hsame]
  rfl

/-- Once the level has been given, all further assignments do the same whatever the level. -/
theorem foldlM_add?_withLevel {first : String} (hlevel : config.logLevel? = some first)
    (level : String) (later : List Toml.Assignment) :
    later.foldlM add? (config.withLevel (some level)) =
      (later.foldlM add? config).map (·.withLevel (some level)) := by
  induction later generalizing config with
  | nil => rfl
  | cons assignment later ih =>
    have hsome : config.logLevel?.isSome = true := by rw [hlevel, Option.isSome_some]
    rw [List.foldlM_cons, List.foldlM_cons, add?_withLevel hsome]
    cases hadd : config.add? assignment with
    | none => rfl
    | some next => exact ih (logLevel?_of_add? hlevel hadd)

end WithLevel

/-- The level can be given, unless it has been given before. -/
theorem add?_level (config : Config) (value : List Char) :
    config.add? ⟨"log-level".toList, value⟩ =
      if config.logLevel? = none then some (config.withLevel (some (String.ofList value)))
      else none := by
  simp [add?, withLevel]

/-- Assignments that are the same but for the level make up configurations that are the same but for
the level. -/
theorem withoutLevel_ofAssignments?_eq (front back : List Toml.Assignment)
    (value value' : List Char) :
    (ofAssignments? (front ++ ⟨"log-level".toList, value⟩ :: back)).map (·.withLevel none) =
      (ofAssignments? (front ++ ⟨"log-level".toList, value'⟩ :: back)).map (·.withLevel none) := by
  rw [ofAssignments?, ofAssignments?, List.foldlM_append, List.foldlM_append]
  cases front.foldlM add? {} with
  | none => rfl
  | some config =>
    show (((config.add? _).bind (back.foldlM add?)).map _) =
      (((config.add? _).bind (back.foldlM add?)).map _)
    rw [add?_level, add?_level]
    by_cases hlevel : config.logLevel? = none
    · rw [if_pos hlevel, if_pos hlevel, Option.bind_some, Option.bind_some]
      have hgiven : (config.withLevel (some (String.ofList value))).logLevel? =
          some (String.ofList value) := rfl
      have hother : back.foldlM add? (config.withLevel (some (String.ofList value'))) =
          (back.foldlM add? (config.withLevel (some (String.ofList value)))).map
            (·.withLevel (some (String.ofList value'))) :=
        foldlM_add?_withLevel hgiven (String.ofList value') back
      rw [hother]
      cases back.foldlM add? (config.withLevel (some (String.ofList value))) <;> rfl
    · rw [if_neg hlevel, if_neg hlevel]

/-- **The level in a configuration file changes nothing but the level.** -/
theorem withoutLevel_parse?_eq {text other : List Char}
    (h : Toml.SameButValue "log-level".toList (Toml.foldReturns (Toml.skipMark text))
      (Toml.foldReturns (Toml.skipMark other))) :
    (parse? text).map (·.withLevel none) = (parse? other).map (·.withLevel none) := by
  rw [parse?, parse?, Toml.assignments?, Toml.assignments?]
  obtain ⟨htext, hother⟩ | ⟨front, back, value, value', htext, hother⟩ := h.readLines?_cases
  · rw [htext, hother]
  · rw [htext, hother]
    exact withoutLevel_ofAssignments?_eq front back value value'

/-- A text that begins with a bracket is no configuration. -/
theorem parse?_bracket (text : List Char) : parse? ('[' :: text) = none := by
  have hfold : Toml.foldReturns (Toml.skipMark ('[' :: text)) = '[' :: Toml.foldReturns text := by
    rw [Toml.skipMark, Toml.foldReturns]
    · intro rest heq
      cases heq
    · intro rest heq
      cases heq
  have hline (rest : List Char) : Toml.readLine? ('[' :: rest) = none := rfl
  rw [parse?, Toml.assignments?, hfold, Toml.readLines?_eq, hline]
  rfl

end Config

end CompileCommands
