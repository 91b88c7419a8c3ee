import CompileCommands.Proofs.CommandLine.Level
import CompileCommands.Proofs.Config.Level
import CompileCommands.Proofs.Program.FirstFailure

/-!
# Logging never decides

The level of the log comes from the command line, from the environment or from the configuration
file, the same file that may say where the database goes. Two runs that differ only in these, and in
the filter that the environment may hold, end alike: with the same exit code, with the same on
standard output, and with the same changes to the files. For the level is never looked at before the
stages of a run are settled: each stage fails in one run exactly if it does in the other, and the
place of the database and its text are the same.

## Main definitions

* `Config.SameButLevel`: configuration files that are the same but for the level.
* `FileTree.SameButLevel`: trees that are the same but for the level in the configuration file.
* `FileTree.Changes`: what stands at a location after a run, and did not before.
* `Program.SameButLogging`: runs that differ only in what decides how much is logged.

## Main results

* `Stage.fails_congr`: no stage fails because of the level.
* `Program.logging_never_decides`: two such runs end alike.
-/

namespace CompileCommands

open Text (decodeUtf8?)

/-! ### Configuration files that differ in the level -/

/-- Two files hold the same configuration but for the text that is given as the level. -/
def Config.SameButLevel (content other : List UInt8) : Prop :=
  ∃ text text', decodeUtf8? content = some text ∧ decodeUtf8? other = some text' ∧
    Toml.SameButValue "log-level".toList (Toml.foldReturns (Toml.skipMark text))
      (Toml.foldReturns (Toml.skipMark text'))

/-- The configuration in a file, given what came of reading it. A default file need not exist. -/
def Config.ofContent? (path? : Option String) : Except FileError (List UInt8) → Option Config
  | .ok content => (decodeUtf8? content).bind Config.parse?
  | .error .notFound | .error .notDirectory | .error .isDirectory =>
    if path? = none then some {} else none
  | .error _ => none

/-- The path of the configuration file of a run. -/
def Options.configPath (options : Options) : String :=
  options.config?.getD Config.defaultFile

/-- Two trees are the same but for the level in the configuration file of a run. This file is none
of the build logs of the run. -/
structure FileTree.SameButLevel (tree other : FileTree) (options : Options) : Prop where
  /-- Paths begin at the same place. -/
  workingDirectory_eq : tree.workingDirectory = other.workingDirectory
  /-- The same stands at each location, but for that of the configuration file. -/
  lookup?_cases : ∀ location, tree.lookup? location = other.lookup? location ∨
    tree.location? options.configPath = some location ∧
      (∀ path ∈ options.inputs, tree.location? path ≠ some location) ∧
      ∃ content content', tree.lookup? location = some (.file content) ∧
        other.lookup? location = some (.file content') ∧ Config.SameButLevel content content'

/-- What stands at a location of a tree has changed, and what stands there now. -/
def FileTree.Changes (before after : FileTree) (location : Location) (found : Option Entry) :
    Prop :=
  after.lookup? location = found ∧ before.lookup? location ≠ found

namespace FileTree

variable {tree other after : FileTree} {options : Options}

/-- A tree has not changed from itself. -/
theorem not_changes_self (tree : FileTree) (location : Location) (found : Option Entry) :
    ¬ tree.Changes tree location found :=
  fun h => h.2 h.1

/-- Writing a file changes what stands at its location, unless the same stood there before. -/
theorem Overwrites.changes_iff {path : String} {place : Location} {content : List UInt8}
    (h : tree.Overwrites after path place content) {location : Location} {found : Option Entry} :
    tree.Changes after location found ↔
      location = place ∧ found = some (.file content) ∧
        tree.lookup? place ≠ some (.file content) := by
  constructor
  · rintro ⟨rfl, hchanged⟩
    have hplace : location = place := Classical.by_contradiction fun hne =>
      hchanged (h.frame location hne).symm
    rw [hplace, h.stands] at hchanged
    exact ⟨hplace, by rw [hplace, h.stands], hchanged⟩
  · rintro ⟨rfl, rfl, hchanged⟩
    exact ⟨h.stands, hchanged⟩

namespace SameButLevel

/-- The trees differ in the contents of files only. -/
theorem sameShape (h : tree.SameButLevel other options) : SameShape tree other := by
  refine ⟨h.workingDirectory_eq, fun location => ?_⟩
  obtain heq | ⟨-, -, content, content', htree, hother, -⟩ := h.lookup?_cases location
  · rw [heq]
    exact .same _
  · rw [htree, hother]
    exact .files content content'

/-- The build logs are the same. -/
theorem read_input_eq (h : tree.SameButLevel other options) {path : String}
    (hpath : path ∈ options.inputs) : tree.read path = other.read path := by
  refine h.sameShape.read_eq fun location hlocation => ?_
  obtain heq | ⟨-, hinputs, -⟩ := h.lookup?_cases location
  · exact heq
  · exact absurd hlocation (hinputs path hpath)

/-- The configuration files are the same, or differ in the level. -/
theorem read_config_cases (h : tree.SameButLevel other options) :
    tree.read options.configPath = other.read options.configPath ∨
      ∃ content content', tree.read options.configPath = .ok content ∧
        other.read options.configPath = .ok content' ∧ Config.SameButLevel content content' := by
  obtain heq | ⟨location, content, content', -, htree, hother, hread, hread'⟩ :=
    h.sameShape.read_cases options.configPath
  · exact .inl heq
  · obtain heq | ⟨-, -, _, _, htree', hother', hsame⟩ := h.lookup?_cases location
    · rw [htree, hother] at heq
      cases heq
      exact .inl (hread.trans hread'.symm)
    · cases htree.symm.trans htree'
      cases hother.symm.trans hother'
      exact .inr ⟨content, content', hread, hread', hsame⟩

end SameButLevel

end FileTree

/-! ### What a run finds -/

/-- A database begins with a bracket. -/
private theorem Database.exists_print_eq (database : Database) :
    ∃ rest, database.print.toList = '[' :: rest := by
  rw [print, String.toList_ofList, lines.eq_def]
  split <;> exact ⟨_, rfl⟩

namespace Workspace

section Config

variable {workspace other : Workspace} {options : Options}

/-- A configuration is what its file says. -/
private theorem toOption_configIn (path : String) :
    (workspace.configIn path).toOption = (workspace.files.read path).toOption.bind fun content =>
      (decodeUtf8? content).bind Config.parse? := by
  rw [configIn, Workspace.text]
  cases workspace.files.read path with
  | error cause => rfl
  | ok content =>
    simp only [decode, Except.toOption, Option.bind_some]
    cases decodeUtf8? content with
    | none => rfl
    | some text =>
      simp only [bind, Except.bind, Option.bind_some]
      cases Config.parse? text <;> rfl

/-- The configuration of a run is what is read from its file. The reason why there is none is
another matter. -/
theorem toOption_config (path? : Option String) :
    (workspace.config path?).toOption =
      Config.ofContent? path? (workspace.files.read (path?.getD Config.defaultFile)) := by
  cases path? with
  | none =>
    have hin := @toOption_configIn workspace Config.defaultFile
    rw [Workspace.config, Option.getD_none]
    revert hin
    rcases workspace.files.read Config.defaultFile with cause | content <;> intro hin
    · cases cause with
      | notFound | notDirectory | isDirectory => rfl
      | nameTooLong | nullInPath | notUtf8 | other => exact hin
    · exact hin
  | some path =>
    have hin := @toOption_configIn workspace path
    rw [Workspace.config, Option.getD_some]
    revert hin
    rcases workspace.files.read path with cause | content <;> intro hin
    · cases cause with
      | notFound | notDirectory | nameTooLong | nullInPath => rfl
      | isDirectory | notUtf8 | other => exact hin
    · exact hin

/-- A configuration file whose name is too long holds no configuration. -/
private theorem config_of_nameTooLong
    (hread : workspace.files.read options.configPath = .error .nameTooLong) (config : Config) :
    workspace.config options.config? ≠ .ok config := by
  obtain ⟨output?, inputs, _ | path, logLevel?⟩ := options
  · have hread : workspace.files.read Config.defaultFile = .error .nameTooLong := hread
    simp [Workspace.config, configIn, Workspace.text, hread, bind, Except.bind]
  · have hread : workspace.files.read path = .error .nameTooLong := hread
    simp [Workspace.config, hread]

/-- A database is no configuration. -/
theorem ne_print_of_config {config : Config} {location : Location}
    (hlocation : workspace.files.location? options.configPath = some location)
    (hconfig : workspace.config options.config? = .ok config) (database : Database) :
    workspace.files.lookup? location ≠ some (.file database.print.toUTF8.data.toList) := by
  intro hfile
  obtain hread | hread := FileTree.read_of_location? hlocation hfile
  · obtain ⟨rest, hprint⟩ := database.exists_print_eq
    rw [Text.toUTF8_eq_encodeUtf8] at hread
    rw [config_of_text hread (Text.decodeUtf8?_encodeUtf8 _), hprint,
      Config.parse?_bracket] at hconfig
    cases hconfig
  · exact config_of_nameTooLong hread config hconfig

end Config

/-- Two runs are asked for the same and find the same, but for the level. The environments may
differ in any way, since nothing else is looked up there, and so may the words of the readers. -/
structure SameButLogging (before other : Workspace) (options options' : Options) : Prop where
  /-- The options are the same but for the level. -/
  options_eq : options.withLevel none = options'.withLevel none
  /-- Standard input is the same. -/
  input_eq : before.input = other.input
  /-- The devices are the same. -/
  devices_eq : before.devices = other.devices
  /-- Standard output takes the same. -/
  outlet_eq : before.outlet = other.outlet
  /-- The same has been written to standard output. -/
  output_eq : before.output = other.output
  /-- The files are the same but for the level in the configuration file. -/
  files : before.files.SameButLevel other.files options

namespace SameButLogging

variable {before other : Workspace} {options options' : Options}

/-- What is written ends up alike, whatever has been reported. -/
theorem writesAlike (h : before.SameButLogging other options options')
    (lines lines' : List String) :
    (before.say lines).WritesAlike (other.say lines') :=
  ⟨h.files.sameShape, h.devices_eq, h.outlet_eq, h.output_eq⟩

private theorem config?_eq (h : before.SameButLogging other options options') :
    options.config? = options'.config? := by
  simpa using congrArg Options.config? h.options_eq

/-- The configuration files are configurations that are the same but for the level, or neither is
one. -/
theorem config_eq (h : before.SameButLogging other options options') :
    (before.config options.config?).toOption.map (·.withLevel none) =
      (other.config options'.config?).toOption.map (·.withLevel none) := by
  rw [← h.config?_eq, toOption_config, toOption_config, ← Options.configPath]
  obtain heq | ⟨content, content', hread, hread', text, text', htext, htext', hsame⟩ :=
    h.files.read_config_cases
  · rw [heq]
  · rw [hread, hread', Config.ofContent?, Config.ofContent?, htext, htext', Option.bind_some,
      Option.bind_some, Config.withoutLevel_parse?_eq hsame]

/-- Both of the configuration files are configurations, or neither is one. -/
theorem exists_config_iff (h : before.SameButLogging other options options') :
    (∃ config, before.config options.config? = .ok config) ↔
      ∃ config, other.config options'.config? = .ok config := by
  have hsame := h.config_eq
  revert hsame
  cases before.config options.config? <;> cases other.config options'.config? <;>
    simp [Except.toOption]

/-- The build logs are the same. -/
theorem sources_eq (h : before.SameButLogging other options options') :
    before.sources options.inputs = other.sources options'.inputs := by
  have hinputs : options.inputs = options'.inputs := by
    simpa using congrArg Options.inputs h.options_eq
  have hread (path : String) (hpath : path ∈ options.inputs) := h.files.read_input_eq hpath
  rw [← hinputs]
  cases hpaths : options.inputs with
  | nil => rw [sources, sources, h.input_eq]
  | cons path paths =>
    rw [hpaths] at hread
    have hsame : ∀ path' ∈ path :: paths, (⟨path', before.files.read path'⟩ : Source) =
        ⟨path', other.files.read path'⟩ := fun path' hpath => by rw [hread path' hpath]
    exact List.map_congr_left hsame

private theorem logs_eq (h : before.SameButLogging other options options') :
    before.logs options.inputs = other.logs options'.inputs := by
  rw [logs_eq_mapM, logs_eq_mapM, h.sources_eq]

/-- The database is the same. -/
theorem readable_eq (h : before.SameButLogging other options options') :
    before.readable options.inputs = other.readable options'.inputs := by
  rw [readable, readable, h.sources_eq]

/-- The place of the database is the same. -/
theorem place_eq (h : before.SameButLogging other options options') {config config' : Config}
    (hconfig : before.config options.config? = .ok config)
    (hconfig' : other.config options'.config? = .ok config') :
    options.place config = options'.place config' := by
  have houtput : options.output? = options'.output? := by
    simpa using congrArg Options.output? h.options_eq
  have hsame := h.config_eq
  rw [hconfig, hconfig'] at hsame
  have hplace : config.output? = config'.output? := by
    simpa using congrArg Config.output? (Option.some.inj hsame)
  rw [Options.place, Options.place, houtput, hplace]

end SameButLogging

end Workspace

/-! ### No stage fails because of the level -/

namespace Stage

variable {before other : Workspace} {arguments arguments' : List String}
  {options options' : Options}

/-- **No stage fails because of the level**, or because of how much is logged. -/
theorem fails_congr (h : before.SameButLogging other options options')
    (hasked : Request.ofArguments arguments = .run options)
    (hasked' : Request.ofArguments arguments' = .run options') (stage : Stage) :
    stage.Fails before arguments ↔ stage.Fails other arguments' := by
  cases stage with
  | arguments => simp only [not_fails_arguments hasked, not_fails_arguments hasked']
  | configuration =>
    simp only [Fails, hasked, hasked', Request.run.injEq, exists_eq_left']
    have hconfig := h.config_eq
    revert hconfig
    cases before.config options.config? <;> cases other.config options'.config? <;>
      simp [Except.toOption]
  | reading =>
    simp only [Fails, hasked, hasked', Request.run.injEq, exists_eq_left', h.sources_eq]
  | emptiness =>
    simp only [Fails, hasked, hasked', Request.run.injEq, exists_eq_left', h.sources_eq]
  | writing =>
    have hput {config config' : Config} (hconfig : before.config options.config? = .ok config)
        (hconfig' : other.config options'.config? = .ok config') :
        (before.put (before.readable options.inputs) (.ofText (options.place config))).1 =
          (other.put (other.readable options'.inputs) (.ofText (options'.place config'))).1 := by
      rw [h.readable_eq, h.place_eq hconfig hconfig']
      exact ((h.writesAlike [] []).put_eq _ _).1
    simp only [Fails, hasked, hasked', Request.run.injEq, exists_and_left, exists_eq_left']
    constructor
    · rintro ⟨config, hconfig, failure, hfails⟩
      obtain ⟨config', hconfig'⟩ := h.exists_config_iff.1 ⟨config, hconfig⟩
      exact ⟨config', hconfig', failure, (hput hconfig hconfig').symm.trans hfails⟩
    · rintro ⟨config', hconfig', failure, hfails⟩
      obtain ⟨config, hconfig⟩ := h.exists_config_iff.2 ⟨config', hconfig'⟩
      exact ⟨config, hconfig, failure, (hput hconfig hconfig').trans hfails⟩

/-- What a run that fails leaves on standard output is the same. -/
theorem EndsRun.output_eq (h : before.SameButLogging other options options')
    (hasked : Request.ofArguments arguments = .run options)
    (hasked' : Request.ofArguments arguments' = .run options') {stage : Stage}
    {code code' : UInt32} {after after' : Workspace}
    (hends : stage.EndsRun before arguments code after)
    (hends' : stage.EndsRun other arguments' code' after') : after.output = after'.output := by
  by_cases hstage : stage = .writing
  · subst hstage
    cases hends with
    | writing hrequest hsettings hlogs hparts hput =>
      cases hends' with
      | writing hrequest' hsettings' hlogs' hparts' hput' =>
        cases hasked.symm.trans hrequest
        cases hasked'.symm.trans hrequest'
        obtain ⟨config, hconfig, houtput⟩ := Workspace.settings_eq_ok hsettings
        obtain ⟨config', hconfig', houtput'⟩ := Workspace.settings_eq_ok hsettings'
        rw [h.logs_eq, hlogs'] at hlogs
        cases hlogs
        cases hparts.symm.trans hparts'
        rw [houtput, h.place_eq hconfig hconfig', Workspace.counted_eq_say] at hput
        rw [houtput', Workspace.counted_eq_say] at hput'
        rw [Workspace.output_say, Workspace.output_say]
        exact (h.writesAlike _ _).output_eq_of_put hput hput'
  · rw [hends.unchanged.2.resolve_right fun hlimit => hstage hlimit.1,
      hends'.unchanged.2.resolve_right fun hlimit => hstage hlimit.1, h.output_eq]

end Stage

/-! ### Requests -/

namespace Request

/-- Requests that are the same but for the level are for runs, or are the same request for
something else. -/
theorem cases_of_withoutLevel_eq {first second : Request}
    (h : first.withoutLevel = second.withoutLevel) :
    (∃ options options', first = .run options ∧ second = .run options' ∧
      options.withLevel none = options'.withLevel none) ∨
    (first = second ∧ ∀ options, first ≠ .run options) := by
  cases first with
  | run options =>
    cases second with
    | run options' => exact .inl ⟨options, options', rfl, rfl, Request.run.inj h⟩
    | _ => cases h
  | shortHelp | longHelp | version | misuse =>
    cases second <;> cases h
    exact .inr ⟨rfl, fun _ heq => by cases heq⟩

end Request

namespace Program

/-- An answer is a text that is sent to standard output. -/
private theorem outcome_answer (text : String) (workspace : Workspace) :
    outcome (answer text) workspace = (0, (workspace.send text.toUTF8.data.toList).2) := rfl

/-- Sending something to standard output leaves the files as they were. -/
private theorem files_send (workspace : Workspace) (bytes : List UInt8) :
    (workspace.send bytes).2.files = workspace.files := by
  rw [Workspace.send]
  cases workspace.outlet.limit? <;> rfl

/-- A request that is not for a run is answered alike everywhere: a text is printed, or an error is
reported, and no file is looked at. -/
private theorem exists_answer {request : Request} (h : ∀ options, request ≠ .run options) :
    ∃ code, (∀ workspace : Workspace, (outcome (perform request) workspace).1 = code ∧
        (outcome (perform request) workspace).2.files = workspace.files) ∧
      ∀ workspace other : Workspace, workspace.outlet = other.outlet →
        workspace.output = other.output →
        (outcome (perform request) workspace).2.output =
          (outcome (perform request) other).2.output := by
  have hanswer (text : String) :
      ∃ code, (∀ workspace : Workspace, (outcome (answer text) workspace).1 = code ∧
          (outcome (answer text) workspace).2.files = workspace.files) ∧
        ∀ workspace other : Workspace, workspace.outlet = other.outlet →
          workspace.output = other.output →
          (outcome (answer text) workspace).2.output =
            (outcome (answer text) other).2.output := by
    refine ⟨0, fun workspace => ?_, fun workspace other houtlet houtput => ?_⟩
    · rw [outcome_answer]
      exact ⟨rfl, files_send _ _⟩
    · rw [outcome_answer, outcome_answer]
      exact (Workspace.send_congr houtlet houtput _).2
  cases request with
  | run options => exact absurd rfl (h options)
  | shortHelp => exact hanswer _
  | longHelp => exact hanswer _
  | version => exact hanswer _
  | misuse cause => exact ⟨2, fun _ => ⟨rfl, rfl⟩, fun _ _ _ houtput => houtput⟩

/-- Two runs end alike: with the same exit code, with the same on standard output, and with the same
changes to the files. -/
structure EndAlike (before other : Workspace) (ending ending' : UInt32 × Workspace) : Prop where
  /-- The exit codes are the same. -/
  code_eq : ending.1 = ending'.1
  /-- The same is seen on standard output. -/
  output_eq : ending.2.output = ending'.2.output
  /-- The same files are new or have changed, and they have the same contents. -/
  changes_iff : ∀ location found, before.files.Changes ending.2.files location found ↔
    other.files.Changes ending'.2.files location found

/-- Two runs differ only in what decides how much is logged: in how the level is given among the
arguments, in the environment, and in the level in the configuration file. What has been reported
may differ too, and so may the words of the readers. -/
structure SameButLogging (arguments arguments' : List String) (before other : Workspace) :
    Prop where
  /-- The arguments are the same but for the level. -/
  sameArguments : Arguments.SameButLevel arguments arguments'
  /-- Standard input is the same. -/
  input_eq : before.input = other.input
  /-- The devices are the same. -/
  devices_eq : before.devices = other.devices
  /-- Standard output takes the same. -/
  outlet_eq : before.outlet = other.outlet
  /-- If a run is asked for, the files are the same but for the level in its configuration file. -/
  sameFiles : ∀ options, Request.ofArguments arguments = .run options →
    before.files.SameButLevel other.files options

section Runs

variable {before other after after' : Workspace} {options options' : Options}

/-- Two runs that change no file end alike if they leave the same on standard output. -/
theorem endAlike_of_files_eq {code : UInt32} (houtput : after.output = after'.output)
    (hfiles : after.files = before.files) (hfiles' : after'.files = other.files) :
    EndAlike before other (code, after) (code, after') := by
  refine ⟨rfl, houtput, fun location found => ?_⟩
  rw [hfiles, hfiles']
  exact iff_of_false (before.files.not_changes_self location found)
    (other.files.not_changes_self location found)

/-- Two runs that write the same database to a file end alike. If it is the configuration file that
they overwrite, then neither of the two was a database. -/
private theorem endAlike_of_overwrites (h : before.SameButLogging other options options')
    {config : Config} (hconfig : before.config options.config? = .ok config) {config' : Config}
    (hconfig' : other.config options'.config? = .ok config') {place : String}
    {location location' : Location} {database : Database}
    (hover : before.files.Overwrites after.files place location
      database.print.toUTF8.data.toList)
    (hover' : other.files.Overwrites after'.files place location'
      database.print.toUTF8.data.toList)
    (houtput : after.output = after'.output) :
    EndAlike before other (0, after) (0, after') := by
  have hshape := h.files.sameShape
  obtain rfl : location = location' := by
    have hleads := hover.leads
    rw [hshape.location?_eq, hover'.leads] at hleads
    exact (Option.some.inj hleads).symm
  refine ⟨rfl, houtput, fun place found => ?_⟩
  rw [hover.changes_iff, hover'.changes_iff]
  obtain heq | ⟨hconfigured, -⟩ := h.files.lookup?_cases location
  · rw [heq]
  · have hpath : options.configPath = options'.configPath := by
      rw [Options.configPath, Options.configPath, h.config?_eq]
    have hconfigured' : other.files.location? options'.configPath = some location := by
      rw [← hpath, ← hshape.location?_eq, hconfigured]
    simp only [ne_eq, Workspace.ne_print_of_config hconfigured hconfig database,
      Workspace.ne_print_of_config hconfigured' hconfig' database]

/-- Two runs that deliver the same database at the same place end alike. -/
private theorem endAlike_of_delivers (h : before.SameButLogging other options options')
    {config : Config} (hconfig : before.config options.config? = .ok config) {config' : Config}
    (hconfig' : other.config options'.config? = .ok config') {place : String} {database : Database}
    (hdelivers : before.Delivers after place database.print)
    (hdelivers' : other.Delivers after' place database.print) :
    EndAlike before other (0, after) (0, after') := by
  -- a place is of the same kind in both runs
  have hdevices : before.device? place = other.device? place :=
    (h.writesAlike [] []).device?_eq place
  cases hdelivers with
  | hyphen hplace houtput hfiles =>
    cases hdelivers' with
    | hyphen _ houtput' hfiles' =>
      exact endAlike_of_files_eq (houtput.trans houtput'.symm) hfiles hfiles'
    | file hplace' | device hplace' => exact absurd hplace hplace'
  | file hplace hdevice hover houtput =>
    cases hdelivers' with
    | hyphen hplace' => exact absurd hplace' hplace
    | file _ _ hover' houtput' =>
      exact endAlike_of_overwrites h hconfig hconfig' hover hover' (houtput.trans houtput'.symm)
    | device _ hdevice' =>
      rw [hdevice, hdevice'] at hdevices
      cases hdevices
  | device hplace hdevice hfiles houtput =>
    cases hdelivers' with
    | hyphen hplace' => exact absurd hplace' hplace
    | file _ hdevice' =>
      rw [hdevice, hdevice'] at hdevices
      cases hdevices
    | device _ hdevice' hfiles' houtput' =>
      rw [hdevice, hdevice'] at hdevices
      cases hdevices
      exact endAlike_of_files_eq (houtput.trans houtput'.symm) hfiles hfiles'

/-- Two runs that fail end alike, since they fail at the same stage. -/
private theorem endAlike_of_endsRun {arguments arguments' : List String}
    (h : before.SameButLogging other options options')
    (hasked : Request.ofArguments arguments = .run options)
    (hasked' : Request.ofArguments arguments' = .run options') {stage stage' : Stage}
    {code : UInt32} (hfirst : stage.FailsFirst before arguments)
    (hfirst' : stage'.FailsFirst other arguments')
    (hends : stage.EndsRun before arguments code after)
    (hends' : stage'.EndsRun other arguments' code after') :
    EndAlike before other (code, after) (code, after') := by
  have hcongr := Stage.fails_congr h hasked hasked'
  have hsame : stage.FailsFirst other arguments' :=
    ⟨(hcongr stage).1 hfirst.fails,
      fun earlier hlt hfails => hfirst.earlier earlier hlt ((hcongr earlier).2 hfails)⟩
  obtain rfl := hsame.unique hfirst'
  exact endAlike_of_files_eq (hends.output_eq h hasked hasked' hends') hends.unchanged.1
    hends'.unchanged.1

/-- Two runs that find the same but for the level end alike. -/
private theorem endAlike_of_run {arguments arguments' : List String}
    (h : before.SameButLogging other options options') (hfresh : before.output = [])
    (hfresh' : other.output = []) (hasked : Request.ofArguments arguments = .run options)
    (hasked' : Request.ofArguments arguments' = .run options') :
    EndAlike before other (outcome (run arguments) before) (outcome (run arguments') other) := by
  have hcongr := Stage.fails_congr h hasked hasked'
  obtain ⟨result, ended, hends, houtcome⟩ := outcome_run hasked before
  obtain ⟨result', ended', hends', houtcome'⟩ := outcome_run hasked' other
  rw [houtcome, houtcome']
  cases result with
  | ok =>
    cases result' with
    | ok =>
      obtain ⟨config, logs, hconfig, hlogs, hdelivers⟩ := hends.delivers hfresh
      obtain ⟨config', logs', hconfig', hlogs', hdelivers'⟩ := hends'.delivers hfresh'
      rw [h.logs_eq, hlogs'] at hlogs
      cases hlogs
      rw [← h.place_eq hconfig hconfig'] at hdelivers'
      exact endAlike_of_delivers h hconfig hconfig' hdelivers hdelivers'
    | error failure =>
      obtain ⟨stage, hfirst, -⟩ := hends'.endsRun hasked'
      exact absurd ((hcongr stage).2 hfirst.fails) (hends.not_fails hasked stage)
  | error failure =>
    obtain ⟨stage, hfirst, hended⟩ := hends.endsRun hasked
    cases result' with
    | ok => exact absurd ((hcongr stage).1 hfirst.fails) (hends'.not_fails hasked' stage)
    | error failure' =>
      obtain ⟨stage', hfirst', hended'⟩ := hends'.endsRun hasked'
      exact endAlike_of_endsRun h hasked hasked' hfirst hfirst' hended hended'

/-- The same request, if it is not for a run, is answered alike. -/
private theorem endAlike_of_answer {request : Request} (houtlet : before.outlet = other.outlet)
    (houtput : before.output = other.output) (h : ∀ options, request ≠ .run options) :
    EndAlike before other (outcome (perform request) before) (outcome (perform request) other) := by
  obtain ⟨code, hanswer, houtputs⟩ := exists_answer h
  obtain ⟨hcode, hfiles⟩ := hanswer before
  obtain ⟨hcode', hfiles'⟩ := hanswer other
  rw [← Prod.eta (outcome _ before), ← Prod.eta (outcome _ other), hcode, hcode']
  exact endAlike_of_files_eq (houtputs before other houtlet houtput) hfiles hfiles'

/-- **Logging never decides.** Two runs that differ only in what decides how much is logged end
alike, whether they succeed or fail. -/
theorem logging_never_decides {arguments arguments' : List String}
    (h : SameButLogging arguments arguments' before other) (hfresh : before.output = [])
    (hfresh' : other.output = []) :
    EndAlike before other (outcome (run arguments) before) (outcome (run arguments') other) := by
  have houtput := hfresh.trans hfresh'.symm
  obtain ⟨options, options', hasked, hasked', hoptions⟩ | ⟨heq, hnot⟩ :=
    Request.cases_of_withoutLevel_eq (Request.withoutLevel_ofArguments_eq h.sameArguments)
  · have hlogging : before.SameButLogging other options options' :=
      ⟨hoptions, h.input_eq, h.devices_eq, h.outlet_eq, houtput, h.sameFiles options hasked⟩
    exact endAlike_of_run hlogging hfresh hfresh' hasked hasked'
  · rw [run, run, ← heq]
    exact endAlike_of_answer h.outlet_eq houtput hnot

end Runs

/-- The level is given in different ways among the arguments of two runs, it stands beside the place
of the database in their configuration files, and one of them has a filter in its environment. Both
write the database to the same place. -/
theorem level_beside_output_never_decides :
    let configured (level : String) : Workspace :=
      { files := { entries := [(["log"], .file [0x78]),
          (["cdg.toml"],
            .file (Text.encodeUtf8 ("output = 'o'\nlog-level = " ++ level).toList))] } }
    let before := configured "'debug'"
    let other := { configured "\"loud\"" with environment := [("RUST_LOG", "cdg=trace")] }
    let arguments := ["-l", "trace", "-i", "log"]
    let arguments' := ["--log-level=off", "-i", "log"]
    SameButLogging arguments arguments' before other ∧
      before.output = [] ∧ other.output = [] ∧
      EndAlike before other (outcome (run arguments) before) (outcome (run arguments') other) := by
  intro configured before other arguments arguments'
  have hasked : Request.ofArguments arguments =
      .run { inputs := ["log"], logLevel? := some "trace" } := by decide
  have harguments : Arguments.SameButLevel arguments arguments' :=
    .level (.behind (.inl rfl) (by decide)) (.assigned "off") (.same ["-i", "log"])
  have hline : Toml.IsLine "output = 'o'\n".toList := by
    have hread : Toml.readLine? ("output = 'o'\n".toList ++ ['l']) =
        some (some ⟨"output".toList, ['o']⟩, ['l']) := by decide +kernel
    obtain ⟨line, hfront, hline⟩ := Toml.exists_line_of_readLine? hread (by decide)
    rwa [List.append_cancel_right hfront]
  have hsame : Toml.SameButValue "log-level".toList "output = 'o'\nlog-level = 'debug'".toList
      "output = 'o'\nlog-level = \"loud\"".toList := by
    have hplace (literal : List Char) : Toml.ValueAt "log-level".toList
        ("log-level = ".toList ++ ('\'' :: literal)) ('\'' :: literal) := ⟨_, _, rfl, rfl, rfl⟩
    have hplace' (literal : List Char) : Toml.ValueAt "log-level".toList
        ("log-level = ".toList ++ ('"' :: literal)) ('"' :: literal) := ⟨_, _, rfl, rfl, rfl⟩
    have hread : Toml.readQuoted? ("'debug'".toList ++ []) =
        some (⟨'\'', false⟩, "debug".toList, []) := by decide +kernel
    have hread' : Toml.readQuoted? ("\"loud\"".toList ++ []) =
        some (⟨'"', false⟩, "loud".toList, []) := by decide +kernel
    exact .line hline (.value (hplace _) (hplace' _) hread hread')
  have hfiles : before.files.SameButLevel other.files
      { inputs := ["log"], logLevel? := some "trace" } := by
    refine ⟨rfl, fun location => ?_⟩
    by_cases hlocation : location = ["cdg.toml"]
    · subst hlocation
      exact .inr ⟨by decide, by decide, _, _, rfl, rfl, _, _, Text.decodeUtf8?_encodeUtf8 _,
        Text.decodeUtf8?_encodeUtf8 _, hsame⟩
    · refine .inl ?_
      simp [FileTree.lookup?, before, other, configured, List.find?_cons, Ne.symm hlocation]
  have hsettled : SameButLogging arguments arguments' before other := by
    refine ⟨harguments, rfl, rfl, rfl, fun options hoptions => ?_⟩
    cases hasked.symm.trans hoptions
    exact hfiles
  exact ⟨hsettled, rfl, rfl, logging_never_decides hsettled rfl rfl⟩

end Program

end CompileCommands
