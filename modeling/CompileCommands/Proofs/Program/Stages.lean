import CompileCommands.Program.Run
import CompileCommands.Program.Workspace

/-!
# The stages of a run in a workspace

In a workspace every stage of a run is a function. The stages that read give a result and leave the
workspace as it is. The stages that log add lines to what has been reported, and to nothing else.
Only writing the database changes the files or prints anything.

## Main definitions

* `Workspace.say`: a workspace in which some lines more have been reported.
* `Workspace.config`, `Workspace.settings`, `Workspace.logs`: what the stages that read find.
* `Workspace.deliver`, `Workspace.put`: what becomes of a text, or of a database, that is written to
  a destination.
* `Program.outcome`, `Program.evaluate`: the result of an action in a workspace, and the workspace
  afterwards.

## Main results

* `Program.evaluate_loadSettings`, `Program.evaluate_readLogs`: the stages that read.
* `Program.evaluate_writeDatabase`: the stage that writes.
-/

namespace CompileCommands

open Text (decodeUtf8?)

/-- The warnings about the name of a level. -/
def Level.warnings (name : String) : List String :=
  match ofName? name with
  | some _ => []
  | none => [warning name]

/-- The lines of the events that a filter shows. -/
def Filter.shown (filter : Filter) (events : List Event) : List String :=
  (events.filter (·.isShownBy filter)).map Event.line

theorem Filter.shown_append (filter : Filter) (first second : List Event) :
    filter.shown first ++ filter.shown second = filter.shown (first ++ second) := by
  rw [shown, shown, shown, List.filter_append, List.map_append]

/-- The events that say how many records each build log holds. -/
def Event.counts (parts : List (List Record)) : List Event :=
  parts.zipIdx.map fun (records, input) => .parsed input records.length

namespace Workspace

/-! ### What the stages find -/

/-- The text that bytes are the UTF-8 form of; otherwise the file they come from is at fault. -/
def decode (path : String) (bytes : List UInt8) : Except Failure (List Char) :=
  match decodeUtf8? bytes with
  | some text => .ok text
  | none => .error (.file path .notUtf8)

variable (workspace : Workspace)

/-- The text of a file. -/
def text (path : String) : Except Failure (List Char) :=
  match workspace.files.read path with
  | .ok bytes => decode path bytes
  | .error cause => .error (.file path cause)

/-- The configuration in a file. -/
def configIn (path : String) : Except Failure Config := do
  let text ← workspace.text path
  match Config.parse? text with
  | some config => .ok config
  | none => .error (.invalidConfig path (workspace.wording.malformed text))

/-- The configuration of a run. A file that was asked for must exist; the default file need not. -/
def config : (path? : Option String) → Except Failure Config
  | some path =>
    match workspace.files.read path with
    | .error .notFound | .error .notDirectory | .error .nameTooLong | .error .nullInPath =>
      .error (.configNotFound path)
    | _ => workspace.configIn path
  | none =>
    match workspace.files.read Config.defaultFile with
    | .error .notFound | .error .notDirectory | .error .isDirectory => .ok {}
    | _ => workspace.configIn Config.defaultFile

variable {workspace} in
/-- The configuration of a run, if its file can be read. -/
theorem config_of_text {path? : Option String} {content : List UInt8} {text : List Char}
    (hread : workspace.files.read (path?.getD Config.defaultFile) = .ok content)
    (htext : decodeUtf8? content = some text) :
    workspace.config path? =
      match Config.parse? text with
      | some config => .ok config
      | none => .error (.invalidConfig (path?.getD Config.defaultFile)
        (workspace.wording.malformed text)) := by
  cases path? with
  | none =>
    have hread : workspace.files.read Config.defaultFile = .ok content := hread
    simp only [config, configIn, Workspace.text, hread, decode, htext]
    rfl
  | some path =>
    have hread : workspace.files.read path = .ok content := hread
    simp only [config, configIn, Workspace.text, hread, decode, htext]
    rfl

/-- The settings of a run. -/
def settings (options : Options) : Except Failure Settings := do
  let config ← workspace.config options.config?
  .ok (Settings.resolve config options.output? options.logLevel?
    (workspace.environment.lookup Settings.logLevelVariable))

/-- The build logs in the given files, or on standard input if no file is given. -/
def logs : (paths : List String) → Except Failure (List (List Char))
  | [] => do
    let text ← decode Program.inputName workspace.input
    .ok [text]
  | paths => paths.mapM workspace.text

/-- The filter of the log. The environment decides, if it gives one. -/
def filter (level : Level) : Filter :=
  match workspace.environment.lookup Program.filterVariable with
  | some text => Filter.parse text
  | none => Filter.upTo Program.name level

/-- The complaints about a filter that the environment gives. -/
def complaints : List String :=
  match workspace.environment.lookup Program.filterVariable with
  | some text => Filter.complaints text
  | none => []

/-! ### What the stages do -/

/-- The workspace in which some lines more have been reported. -/
def say (lines : List String) : Workspace :=
  { workspace with
    errors := lines.foldl (fun errors line => errors ++ line ++ "\n") workspace.errors }

/-- What becomes of a text that is written to a destination. -/
def deliver (text : String) : (output : Destination) → Except FileError Unit × Workspace
  | .stdout => workspace.send text.toUTF8.data.toList
  | .file path => workspace.store path text.toUTF8.data.toList

/-- What becomes of a database that is written to its destination. A failure names the
destination. -/
def put (database : Database) (output : Destination) : Except Failure Unit × Workspace :=
  (workspace.deliver database.print output).map (.mapError (.file output.place)) id

section Say

variable (lines : List String)

@[simp] theorem files_say : (workspace.say lines).files = workspace.files := rfl

@[simp] theorem input_say : (workspace.say lines).input = workspace.input := rfl

@[simp] theorem environment_say :
    (workspace.say lines).environment = workspace.environment := rfl

@[simp] theorem output_say : (workspace.say lines).output = workspace.output := rfl

@[simp] theorem say_nil : workspace.say [] = workspace := rfl

/-- Lines may be reported in parts. -/
@[simp] theorem say_say (more : List String) :
    (workspace.say lines).say more = workspace.say (lines ++ more) := by
  rw [say, say, say, List.foldl_append]

/-- What has been reported makes no difference to what is found. -/
@[simp] theorem logs_say (paths : List String) :
    (workspace.say lines).logs paths = workspace.logs paths := rfl

@[simp] theorem settings_say (options : Options) :
    (workspace.say lines).settings options = workspace.settings options := rfl

end Say

end Workspace

namespace Program

variable {α β : Type}

/-- The result of an action in a workspace, and the workspace afterwards. -/
def outcome (action : StateM Workspace α) (workspace : Workspace) : α × Workspace :=
  (StateT.run action workspace).run

/-- The result of an action that may fail in a workspace, and the workspace afterwards. -/
def evaluate (action : ExceptT Failure (StateM Workspace) α) (workspace : Workspace) :
    Except Failure α × Workspace :=
  outcome action.run workspace

/-! ### Actions in a row -/

section Bind

variable {action : ExceptT Failure (StateM Workspace) α}
  {next : α → ExceptT Failure (StateM Workspace) β} {workspace after : Workspace}

/-- An action that succeeds hands its result on. -/
theorem evaluate_bind_of_ok {result : α} (h : evaluate action workspace = (.ok result, after)) :
    evaluate (action >>= next) workspace = evaluate (next result) after := by
  show outcome (ExceptT.bindCont next (evaluate action workspace).1)
    (evaluate action workspace).2 = _
  rw [h]
  rfl

/-- An action that fails ends the run. -/
theorem evaluate_bind_of_error {failure : Failure}
    (h : evaluate action workspace = (.error failure, after)) :
    evaluate (action >>= next) workspace = (.error failure, after) := by
  show outcome (ExceptT.bindCont next (evaluate action workspace).1)
    (evaluate action workspace).2 = _
  rw [h]
  rfl

/-- Actions that only read find in a row what their results in a row are. -/
theorem evaluate_bind_of_reads {result : Except Failure α} {further : α → Except Failure β}
    (h : evaluate action workspace = (result, workspace))
    (hnext : ∀ found, evaluate (next found) workspace = (further found, workspace)) :
    evaluate (action >>= next) workspace = (result >>= further, workspace) := by
  cases result with
  | ok found =>
    rw [evaluate_bind_of_ok h]
    exact hnext found
  | error failure => exact evaluate_bind_of_error h

/-- An action that cannot fail succeeds. -/
theorem evaluate_liftM (action : StateM Workspace α) (workspace : Workspace) :
    evaluate (liftM action) workspace =
      (.ok (outcome action workspace).1, (outcome action workspace).2) := rfl

/-- An action that cannot fail hands its result on. -/
theorem evaluate_liftM_bind (action : StateM Workspace α)
    (next : α → ExceptT Failure (StateM Workspace) β) (workspace : Workspace) :
    evaluate (liftM action >>= next) workspace =
      evaluate (next (outcome action workspace).1) (outcome action workspace).2 := rfl

end Bind

/-! ### The stages that read -/

section Reads

variable (workspace : Workspace)

private theorem evaluate_decode (path : String) (bytes : List UInt8) :
    evaluate (decode path bytes) workspace = (Workspace.decode path bytes, workspace) := by
  rw [decode, Workspace.decode]
  cases decodeUtf8? bytes with
  | some text => rfl
  | none => rfl

private theorem evaluate_textOf (path : String) :
    evaluate (textOf path (workspace.files.read path)) workspace =
      (workspace.text path, workspace) := by
  rw [textOf.eq_def, Workspace.text]
  cases workspace.files.read path with
  | ok bytes => exact evaluate_decode workspace path bytes
  | error cause => rfl

/-- Reading the text of a file. -/
theorem evaluate_readText (path : String) :
    evaluate (readText path) workspace = (workspace.text path, workspace) :=
  evaluate_textOf workspace path

private theorem evaluate_parseConfig (path : String) :
    evaluate (textOf path (workspace.files.read path) >>= parseConfig path) workspace =
      (workspace.configIn path, workspace) := by
  refine evaluate_bind_of_reads (evaluate_textOf workspace path) fun text => ?_
  rw [parseConfig]
  cases Config.parse? text <;> rfl

/-- Loading the configuration from a file that was asked for. -/
theorem evaluate_loadConfigFrom (path : String) :
    evaluate (loadConfigFrom path) workspace = (workspace.config (some path), workspace) := by
  have hparse := evaluate_parseConfig workspace path
  have hread : outcome (Host.read path) workspace = (workspace.files.read path, workspace) := rfl
  rw [loadConfigFrom, evaluate_liftM_bind, hread, Workspace.config]
  cases hcontent : workspace.files.read path with
  | ok bytes =>
    rw [hcontent] at hparse
    exact hparse
  | error cause =>
    rw [hcontent] at hparse
    cases cause with
    | notFound | notDirectory | nameTooLong | nullInPath => rfl
    | isDirectory | notUtf8 | other => exact hparse

/-- Loading the configuration from the default file. -/
theorem evaluate_loadDefaultConfig :
    evaluate loadDefaultConfig workspace = (workspace.config none, workspace) := by
  have hparse := evaluate_parseConfig workspace Config.defaultFile
  have hread : outcome (Host.read Config.defaultFile) workspace =
      (workspace.files.read Config.defaultFile, workspace) := rfl
  rw [loadDefaultConfig, evaluate_liftM_bind, hread, Workspace.config]
  cases hcontent : workspace.files.read Config.defaultFile with
  | ok bytes =>
    rw [hcontent] at hparse
    exact hparse
  | error cause =>
    rw [hcontent] at hparse
    cases cause with
    | notFound | notDirectory | isDirectory => rfl
    | nameTooLong | nullInPath | notUtf8 | other => exact hparse

/-- Loading the configuration of a run. -/
theorem evaluate_loadConfig (path? : Option String) :
    evaluate (loadConfig path?) workspace = (workspace.config path?, workspace) := by
  cases path? with
  | some path => exact evaluate_loadConfigFrom workspace path
  | none => exact evaluate_loadDefaultConfig workspace

/-- Loading the settings. -/
theorem evaluate_loadSettings (options : Options) :
    evaluate (loadSettings options) workspace = (workspace.settings options, workspace) :=
  evaluate_bind_of_reads (evaluate_loadConfig workspace options.config?) fun _ => rfl

private theorem evaluate_mapM_readText (paths : List String) :
    evaluate (paths.mapM readText) workspace = (paths.mapM workspace.text, workspace) := by
  induction paths with
  | nil => rfl
  | cons path paths ih =>
    rw [List.mapM_cons, List.mapM_cons]
    refine evaluate_bind_of_reads (evaluate_readText workspace path) fun text => ?_
    exact evaluate_bind_of_reads ih fun _ => rfl

/-- Reading the build logs. -/
theorem evaluate_readLogs (paths : List String) :
    evaluate (readLogs paths) workspace = (workspace.logs paths, workspace) := by
  cases paths with
  | nil =>
    rw [readLogs, evaluate_liftM_bind]
    exact evaluate_bind_of_reads (evaluate_decode workspace inputName workspace.input)
      fun _ => rfl
  | cons path paths => exact evaluate_mapM_readText workspace (path :: paths)

end Reads

/-! ### The stages that log -/

section Logs

variable (workspace : Workspace)

/-- Reporting lines one by one. -/
theorem outcome_forM_report (lines : List String) :
    outcome (lines.forM Host.report) workspace = ((), workspace.say lines) := by
  induction lines generalizing workspace with
  | nil => rfl
  | cons line lines ih =>
    show outcome (lines.forM Host.report) (workspace.say [line]) = _
    rw [ih, Workspace.say_say]
    rfl

/-- Warning about the name of a level. -/
theorem outcome_warnAboutLevel (name : String) :
    outcome (warnAboutLevel name) workspace = ((), workspace.say (Level.warnings name)) := by
  rw [warnAboutLevel, Level.warnings]
  cases Level.ofName? name <;> rfl

/-- Choosing the filter of the log. -/
theorem outcome_chooseFilter (level : Level) :
    outcome (chooseFilter level) workspace =
      (workspace.filter level, workspace.say workspace.complaints) := by
  rw [chooseFilter, Workspace.filter, Workspace.complaints]
  show outcome (match workspace.environment.lookup filterVariable with
    | some text => do
      (Filter.complaints text).forM Host.report
      return Filter.parse text
    | none => return Filter.upTo name level) workspace = _
  cases workspace.environment.lookup filterVariable with
  | none => rfl
  | some text =>
    show (Filter.parse text, (outcome ((Filter.complaints text).forM Host.report) workspace).2) = _
    rw [outcome_forM_report]

/-- Logging an event. -/
theorem outcome_log (filter : Filter) (event : Event) :
    outcome (log filter event) workspace = ((), workspace.say (filter.shown [event])) := by
  rw [log, Filter.shown]
  cases hshown : event.isShownBy filter with
  | true =>
    have hkept : [event].filter (·.isShownBy filter) = [event] := by simp [hshown]
    rw [hkept]
    rfl
  | false =>
    have hdropped : [event].filter (·.isShownBy filter) = [] := by simp [hshown]
    rw [hdropped]
    rfl

/-- Logging how many records each build log holds. -/
theorem outcome_logParts (filter : Filter) (parts : List (List Record)) :
    outcome (logParts filter parts) workspace =
      ((), workspace.say (filter.shown (Event.counts parts))) := by
  rw [logParts, Event.counts]
  induction parts.zipIdx generalizing workspace with
  | nil => rfl
  | cons part parts ih =>
    show outcome (parts.forM fun (records, input) => log filter (.parsed input records.length))
      (outcome (log filter (.parsed part.2 part.1.length)) workspace).2 = _
    rw [outcome_log, ih, Workspace.say_say, Filter.shown_append]
    rfl

end Logs

/-! ### The stage that writes -/

private theorem outcome_deliver (text : String) (output : Destination) (workspace : Workspace) :
    outcome (deliver text output) workspace = workspace.deliver text output := by
  cases output <;> rfl

/-- Writing a database. -/
theorem evaluate_writeDatabase (database : Database) (output : Destination)
    (workspace : Workspace) :
    evaluate (writeDatabase database output) workspace = workspace.put database output := by
  rw [writeDatabase, evaluate_liftM_bind, outcome_deliver, Workspace.put]
  rcases workspace.deliver database.print output with ⟨_ | _, after⟩ <;> rfl

end Program

end CompileCommands
