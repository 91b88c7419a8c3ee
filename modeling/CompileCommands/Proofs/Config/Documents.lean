import CompileCommands.Config.Basic
import CompileCommands.Proofs.Program.Stages
import CompileCommands.Proofs.Text.Utf8
import CompileCommands.Proofs.Toml.Documents
import Mathlib.Data.List.Permutation

/-!
# What a configuration file means

A configuration file gives its settings as a document, each setting once and in any order, and
nothing else. However the document is written, it is read as these settings, and nothing but such a
document is read as any.

A file may also be spoiled at some place: a table begins there, or a name that is none of the
settings or has been given before, or a value that is no text. What stands in front of it and what
follows make no difference, and nothing is read at all.

## Main definitions

* `Config.assignments`: what gives the settings of a configuration.
* `Config.IsGivenIn`: the files that give a configuration.
* `Config.IsSpoiled`: the files that are spoiled at some place.

## Main results

* `Config.parse?_eq_some_iff`: what is read from a file, however it is written.
* `Config.parse?_of_isSpoiled`: nothing is read from a file that is spoiled.
* `Config.exists_isGivenIn`: every configuration can be given.
* `Program.config_carries_texts_and_nothing_else`: what comes of loading a file.
-/

namespace CompileCommands

open Toml (Assignment Named Literal IsSpaces Line Lines Document Saved)

namespace Config

/-- The names of the settings. -/
def keys : List (List Char) :=
  ["output".toList, "log-level".toList]

/-- What gives the settings of a configuration. -/
def assignments (config : Config) : List Assignment :=
  (config.output?.map fun value => ⟨"output".toList, value.toList⟩).toList ++
    (config.logLevel?.map fun value => ⟨"log-level".toList, value.toList⟩).toList

/-- The files that give a configuration: each of its settings once, in any order. -/
inductive IsGivenIn (config : Config) (file : List Char) : Prop
  | mk {assignments : List Assignment} {text : List Char} (hdocument : Document assignments text)
      (hperm : assignments.Perm config.assignments) (hsaved : Saved text file) :
      IsGivenIn config file

/-- The beginnings of a line that belong to no configuration, whatever follows, if some assignments
stand in front. -/
inductive Spoils (given : List Assignment) : List Char → Prop
  /-- A table begins. -/
  | table {margin : List Char} (hmargin : IsSpaces margin) : Spoils given (margin ++ ['['])
  /-- The name is that of something in a table. -/
  | dotted {key named : List Char} (hkey : Named key named) : Spoils given (named ++ ['.'])
  /-- The name is none of the settings. -/
  | foreign {key named : List Char} (hkey : Named key named) (h : key ∉ keys) :
      Spoils given (named ++ ['='])
  /-- The name has been given before. -/
  | repeated {key named : List Char} (hkey : Named key named)
      (h : key ∈ given.map Assignment.key) : Spoils given (named ++ ['='])
  /-- The value is no text. -/
  | noText {key named spaces : List Char} {c : Char} (hkey : Named key named)
      (hspaces : IsSpaces spaces) (hspace : Toml.isSpace c = false) (hquote : c ≠ '"' ∧ c ≠ '\'') :
      Spoils given (named ++ '=' :: (spaces ++ [c]))

/-- The files that are spoiled at some place: any number of lines stand in front of it, and
anything may follow. -/
inductive IsSpoiled (file : List Char) : Prop
  | mk {given : List Assignment} {front start raw rest : List Char} (hfront : Lines given front)
      (hstart : Spoils given start) (hsaved : Saved (front ++ start) raw)
      (hfile : file = raw ++ rest) : IsSpoiled file

/-! ### Assignments -/

section Assignments

variable {config next : Config} {assignment : Assignment} {given : List Assignment}

private theorem assignments_perm_of_add? (h : config.add? assignment = some next) :
    next.assignments.Perm (config.assignments ++ [assignment]) := by
  obtain ⟨key, value⟩ := assignment
  rw [add?] at h
  split at h
  next hkey =>
    obtain ⟨rfl, hnone⟩ := hkey
    cases h
    simp only [assignments, hnone, String.toList_ofList, Option.map_some, Option.toList_some,
      Option.map_none, Option.toList_none, List.nil_append]
    exact List.perm_append_comm
  next =>
    split at h
    next hkey =>
      obtain ⟨rfl, hnone⟩ := hkey
      cases h
      simp [assignments, hnone]
    next => cases h

private theorem perm_of_foldlM_add? (h : given.foldlM add? config = some next) :
    next.assignments.Perm (config.assignments ++ given) := by
  induction given generalizing config with
  | nil =>
    cases h
    simp
  | cons assignment given ih =>
    obtain ⟨between, hadd, hrest⟩ := Option.bind_eq_some_iff.1 h
    have hperm := (ih hrest).trans ((assignments_perm_of_add? hadd).append_right given)
    rwa [List.append_assoc] at hperm

private theorem ofAssignments?_of_perm (h : given.Perm config.assignments) :
    ofAssignments? given = some config := by
  -- A configuration has two settings at most, so there are few assignments and orders to try.
  obtain ⟨_ | output, _ | logLevel⟩ := config
  · obtain rfl := List.perm_nil.1 h
    rfl
  · obtain rfl := List.perm_singleton.1 h
    simp [ofAssignments?, add?]
  · obtain rfl := List.perm_singleton.1 h
    simp [ofAssignments?, add?]
  · rcases List.perm_pair.1 h with rfl | rfl <;> simp [ofAssignments?, add?]

/-- **Assignments make up a configuration exactly if they give its settings**, in any order. -/
theorem ofAssignments?_eq_some_iff :
    ofAssignments? given = some config ↔ given.Perm config.assignments :=
  ⟨fun h => (perm_of_foldlM_add? h).symm, ofAssignments?_of_perm⟩

/-- A configuration gives each setting once, and nothing else. -/
theorem map_key_assignments_sublist (config : Config) :
    (config.assignments.map Assignment.key).Sublist keys := by
  obtain ⟨_ | output, _ | logLevel⟩ := config <;> simp [assignments, keys]

private theorem ofAssignments?_eq_none_of_foreign (hmem : assignment ∈ given)
    (h : assignment.key ∉ keys) : ofAssignments? given = none := by
  rw [Option.eq_none_iff_forall_ne_some]
  intro config hconfig
  have hperm := (ofAssignments?_eq_some_iff.1 hconfig).map Assignment.key
  have hkey := hperm.mem_iff.1 (List.mem_map_of_mem hmem)
  exact h ((map_key_assignments_sublist config).mem hkey)

private theorem ofAssignments?_eq_none_of_repeated (h : ¬ (given.map Assignment.key).Nodup) :
    ofAssignments? given = none := by
  rw [Option.eq_none_iff_forall_ne_some]
  intro config hconfig
  have hperm := (ofAssignments?_eq_some_iff.1 hconfig).map Assignment.key
  have hnodup : keys.Nodup := by decide
  exact h (hperm.nodup_iff.2 (hnodup.sublist (map_key_assignments_sublist config)))

end Assignments

/-! ### Files -/

section Files

variable {config : Config} {given : List Assignment} {start file rest : List Char}

/-- **A configuration is what a file gives**, however the file is written. -/
theorem parse?_eq_some_iff : parse? file = some config ↔ config.IsGivenIn file := by
  rw [parse?, Option.bind_eq_bind, Option.bind_eq_some_iff]
  constructor
  · rintro ⟨assignments, hread, hconfig⟩
    obtain ⟨text, hdocument, hsaved⟩ := Toml.assignments?_eq_some_iff.1 hread
    exact ⟨hdocument, ofAssignments?_eq_some_iff.1 hconfig, hsaved⟩
  · rintro ⟨hdocument, hperm, hsaved⟩
    exact ⟨_, Toml.assignments?_eq_some_iff.2 ⟨_, hdocument, hsaved⟩,
      ofAssignments?_eq_some_iff.2 hperm⟩

/-- **Every configuration can be given**, whatever its texts are. -/
theorem exists_isGivenIn (config : Config) : ∃ file, config.IsGivenIn file := by
  obtain ⟨text, hdocument⟩ := Toml.exists_document config.assignments
  exact ⟨text, hdocument, .refl _, .plain (Toml.addsReturns_self hdocument.return_notMem)⟩

/-- A line that spoils a configuration is not read, or it gives a name that may not be given. -/
private theorem Spoils.of_readLine? (h : Spoils given start) {content : Option Assignment}
    {behind : List Char} (hread : Toml.readLine? (start ++ rest) = some (content, behind)) :
    ∃ key value, content = some ⟨key, value⟩ ∧
      (key ∉ keys ∨ key ∈ given.map Assignment.key) := by
  cases h with
  | table hmargin =>
    rw [List.append_assoc, List.singleton_append, hmargin.readLine?_bracket] at hread
    cases hread
  | dotted hkey =>
    rw [List.append_assoc, List.singleton_append, hkey.readLine?_dot] at hread
    cases hread
  | foreign hkey h =>
    rw [List.append_assoc, List.singleton_append] at hread
    obtain ⟨_, value, _, _, rfl⟩ := hkey.exists_of_readLine? hread
    exact ⟨_, value, rfl, .inl h⟩
  | repeated hkey h =>
    rw [List.append_assoc, List.singleton_append] at hread
    obtain ⟨_, value, _, _, rfl⟩ := hkey.exists_of_readLine? hread
    exact ⟨_, value, rfl, .inr h⟩
  | @noText key named spaces c hkey hspaces hspace hquote =>
    rw [List.append_assoc, List.cons_append, List.append_assoc, List.singleton_append] at hread
    obtain ⟨_, _, _, hvalue, _⟩ := hkey.exists_of_readLine? hread
    have hopening : ¬ (c = '"' ∨ c = '\'') := by simp [hquote]
    rw [hspaces.skipSpaces_append (by simpa using hspace), Toml.readQuoted?, Toml.readOpening?,
      if_neg hopening] at hvalue
    cases hvalue

/-- What spoils a configuration does not begin with a byte order mark. -/
private theorem Spoils.head?_append_ne (h : Spoils given start) :
    (start ++ rest).head? ≠ some '\ufeff' := by
  cases h with
  | table hmargin => simpa using hmargin.head?_append_ne (c := '[') (by decide) rest
  | dotted hkey => simpa using hkey.head?_append_ne (.inr rfl) rest
  | foreign hkey => simpa using hkey.head?_append_ne (.inl rfl) rest
  | repeated hkey => simpa using hkey.head?_append_ne (.inl rfl) rest
  | @noText _ _ spaces c hkey =>
    simpa using hkey.head?_append_ne (.inl rfl) (spaces ++ c :: rest)

/-- **Nothing is read from a file that is spoiled**, whatever stands in front and behind. -/
theorem parse?_of_isSpoiled (h : IsSpoiled file) : parse? file = none := by
  obtain @⟨given, front, start, raw, rest, hfront, hstart, hsaved, rfl⟩ := h
  have hhead : ((front ++ start) ++ rest).head? ≠ some '\ufeff' := by
    rw [List.append_assoc, List.head?_append]
    cases hfirst : front.head? with
    | none => exact hstart.head?_append_ne
    | some c => simpa [hfirst] using hfront.head?_ne
  rw [parse?, Toml.assignments?, hsaved.foldReturns_skipMark hhead, List.append_assoc,
    hfront.readLines?_append, Toml.readLines?_eq]
  generalize Toml.foldReturns rest = later
  cases hread : Toml.readLine? (start ++ later) with
  | none => rfl
  | some line =>
    obtain ⟨content, behind⟩ := line
    obtain ⟨key, value, rfl, hkey⟩ := hstart.of_readLine? hread
    cases hlater : Toml.readLines? behind with
    | none => simp [hlater]
    | some assignments =>
      have hnone : ofAssignments? (given ++ ⟨key, value⟩ :: assignments) = none := by
        rcases hkey with hforeign | hrepeated
        · have hmem : (⟨key, value⟩ : Assignment) ∈ given ++ ⟨key, value⟩ :: assignments :=
            List.mem_append_right given List.mem_cons_self
          exact ofAssignments?_eq_none_of_foreign hmem hforeign
        · refine ofAssignments?_eq_none_of_repeated fun hnodup => ?_
          rw [List.map_append, List.map_cons, List.nodup_append] at hnodup
          exact hnodup.2.2 key hrepeated key List.mem_cons_self rfl
      simp [hlater, hnone]

end Files

end Config

namespace Program

/-- **A configuration file carries any texts and nothing else.** Every configuration can be given,
and a file that gives one is loaded as this one, however it is written. A file that gives none is at
fault, and so is every file that is spoiled at some place, whatever stands in front of it and
behind. -/
theorem config_carries_texts_and_nothing_else {workspace : Workspace} {path? : Option String}
    {file : List Char}
    (hread : workspace.files.read (path?.getD Config.defaultFile) = .ok (Text.encodeUtf8 file)) :
    (∀ config : Config, ∃ other, config.IsGivenIn other) ∧
    (∀ config, evaluate (loadConfig path?) workspace = (.ok config, workspace) ↔
      config.IsGivenIn file) ∧
    ((∀ config : Config, ¬ config.IsGivenIn file) →
      evaluate (loadConfig path?) workspace =
        (.error (.invalidConfig (path?.getD Config.defaultFile)
          (workspace.wording.malformed file)), workspace)) ∧
    (Config.IsSpoiled file →
      evaluate (loadConfig path?) workspace =
        (.error (.invalidConfig (path?.getD Config.defaultFile)
          (workspace.wording.malformed file)), workspace)) := by
  have hconfig := Workspace.config_of_text hread (Text.decodeUtf8?_encodeUtf8 file)
  have hnone (h : Config.parse? file = none) : evaluate (loadConfig path?) workspace =
      (.error (.invalidConfig (path?.getD Config.defaultFile)
        (workspace.wording.malformed file)), workspace) := by
    rw [evaluate_loadConfig, hconfig, h]
  refine ⟨Config.exists_isGivenIn, fun config => ?_, fun hgiven => hnone ?_,
    fun h => hnone (Config.parse?_of_isSpoiled h)⟩
  · rw [evaluate_loadConfig, hconfig, ← Config.parse?_eq_some_iff]
    cases Config.parse? file <;> simp
  · rw [Option.eq_none_iff_forall_ne_some]
    exact fun config h => hgiven config (Config.parse?_eq_some_iff.1 h)

/-- A file with a byte order mark, a comment, carriage returns and escapes gives both settings, the
level first. Another one is spoiled by a name with an underscore. -/
theorem config_carries_escapes_below_comment :
    let file := "\ufeff# é\r\n\tlog-level = \"\\u0022\\t\" # y\r\n\noutput=\"\\\\\"".toList
    let spoiled := "output = \"a\"\nlog_level = 'debug'".toList
    let workspace : Workspace :=
      { files := { entries := [(["cdg.toml"], .file (Text.encodeUtf8 file)),
          (["a.toml"], .file (Text.encodeUtf8 spoiled))] }
        wording := { malformed := fun _ => "unknown field" } }
    evaluate (loadConfig none) workspace =
        (.ok { output? := some "\\", logLevel? := some "\"\t" }, workspace) ∧
      evaluate (loadConfig (some "a.toml")) workspace =
        (.error (.invalidConfig "a.toml" "unknown field"), workspace) := by
  intro file spoiled workspace
  have hnone : IsSpaces [] := List.forall_mem_nil _
  have hblank : IsSpaces [' '] := List.forall_mem_singleton.2 rfl
  have htab : IsSpaces ['\t'] := List.forall_mem_singleton.2 rfl
  have hkey (name : String) (hne : name.toList ≠ [])
      (h : name.toList.all Toml.isKeyChar = true) : Toml.Key name.toList name.toList :=
    .bare hne (List.all_eq_true.1 h)
  have hgiven : Config.IsGivenIn { output? := some "\\", logLevel? := some "\"\t" } file := by
    have hcomment : Line none ([] ++ '#' :: [' ', 'é']) :=
      .blank (.comment hnone (List.all_eq_true.1 rfl))
    have hlevel :=
      have hcode : Toml.Escape '"' ('u' :: ['0', '0', '2', '2']) :=
        .short rfl ⟨by decide, by decide⟩
      have hletter : Toml.Escape '\t' ['t'] := .letter (by decide)
      have hbehind : ∀ c ∈ [' ', 'y'], Toml.isCommentChar c = true := List.all_eq_true.1 rfl
      Line.assigns (.mk htab (hkey "log-level" (by decide) rfl) hblank) hblank
        (.line (.inl rfl) (.escape rfl hcode (.escape rfl hletter (.nil '"'))))
        (.comment hblank hbehind)
    have houtput :=
      have hletter : Toml.Escape '\\' ['\\'] := .letter (by decide)
      Line.assigns (.mk hnone (hkey "output" (by decide) rfl) hnone) hnone
        (.line (.inl rfl) (.escape rfl hletter (.nil '"'))) (.spaces hnone)
    have hdocument := Document.mk
      (.cons hcomment (.cons hlevel (.cons (.blank (.spaces hnone)) .nil))) houtput
    exact ⟨hdocument, by decide,
      Toml.saved_of_foldReturns_skipMark (by decide +kernel) hdocument.return_notMem⟩
  have hspoiled : Config.IsSpoiled spoiled := by
    have houtput : Line (some ⟨"output".toList, ['a']⟩) _ :=
      .assigns (.mk hnone (hkey "output" (by decide) rfl) hblank) hblank
        (.line (.inl rfl) (.raw (.inl rfl) (by decide) (by decide) (.nil '"'))) (.spaces hnone)
    have hnamed : Named "log_level".toList _ :=
      .mk hnone (hkey "log_level" (by decide) rfl) hblank
    have hsaved (text : List Char) (h : '\r' ∉ text) : Saved text text :=
      .plain (Toml.addsReturns_self h)
    refine .mk (.cons houtput .nil) (.foreign hnamed (by decide)) (hsaved _ ?_)
      (?_ : spoiled = _ ++ " 'debug'".toList) <;> decide +kernel
  have hread : workspace.files.read ((none : Option String).getD Config.defaultFile) =
      .ok (Text.encodeUtf8 file) := rfl
  have hread' : workspace.files.read ((some "a.toml").getD Config.defaultFile) =
      .ok (Text.encodeUtf8 spoiled) := rfl
  obtain ⟨-, hloaded, -, -⟩ := config_carries_texts_and_nothing_else hread
  obtain ⟨-, -, -, hrefused⟩ := config_carries_texts_and_nothing_else hread'
  exact ⟨(hloaded _).2 hgiven, hrefused hspoiled⟩

end Program

end CompileCommands
