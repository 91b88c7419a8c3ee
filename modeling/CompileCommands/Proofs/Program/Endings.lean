import CompileCommands.Proofs.Program.Stages

/-!
# How runs end

A run goes through its stages in order, and the first one that fails ends it. So a run ends in one
of five ways, and each of them says which stages have been gone through, what they found, and what
the workspace has become.

## Main definitions

* `Program.Ends`: the ways in which a run ends.
* `Program.exitCode`, `Program.closing`: the exit code of a run, and the last lines it reports.

## Main results

* `Program.ends_build`: the ways are all there are.
* `Program.outcome_run`: a whole run.
-/

namespace CompileCommands

/-- The request is for a text about the program. -/
def Request.isAnswered : Request → Bool
  | .shortHelp | .longHelp | .version => true
  | .run _ | .misuse _ => false

/-! ### The workspace on the way -/

namespace Workspace

variable (workspace : Workspace) (settings : Settings)

/-- The filter of the log under given settings. -/
def filterFor : Filter :=
  workspace.filter (Level.ofText settings.logLevel)

/-- The workspace once a run has its settings and has logged its start. -/
def started : Workspace :=
  workspace.say (Level.warnings settings.logLevel ++ workspace.complaints ++
    (workspace.filterFor settings).shown [.starting settings])

/-- The workspace once the records of the build logs have been counted. -/
def counted (parts : List (List Record)) : Workspace :=
  (workspace.started settings).say ((workspace.filterFor settings).shown (Event.counts parts))

@[simp] theorem files_started : (workspace.started settings).files = workspace.files := by
  rw [started, files_say]

@[simp] theorem output_started : (workspace.started settings).output = workspace.output := by
  rw [started, output_say]

/-- The workspace once the records have been counted, with all that has been reported. -/
theorem counted_eq_say (parts : List (List Record)) :
    workspace.counted settings parts =
      workspace.say (Level.warnings settings.logLevel ++ workspace.complaints ++
        (workspace.filterFor settings).shown (.starting settings :: Event.counts parts)) := by
  rw [counted, started, say_say, List.append_assoc, Filter.shown_append, List.singleton_append,
    List.append_assoc]

end Workspace

namespace Program

/-- The ways in which a run ends. -/
inductive Ends (before : Workspace) (options : Options) : Except Failure Unit → Workspace → Prop
  /-- The settings cannot be loaded. -/
  | unsettled {failure : Failure} (hsettings : before.settings options = .error failure) :
    Ends before options (.error failure) before
  /-- Some build log cannot be read. -/
  | unread {settings : Settings} {failure : Failure}
    (hsettings : before.settings options = .ok settings)
    (hlogs : before.logs options.inputs = .error failure) :
    Ends before options (.error failure) (before.started settings)
  /-- All build logs are blank. -/
  | blank {settings : Settings} {logs : List (List Char)}
    (hsettings : before.settings options = .ok settings)
    (hlogs : before.logs options.inputs = .ok logs)
    (hparts : BuildLog.recordsByLog? logs = none) :
    Ends before options (.error .emptyInput) (before.started settings)
  /-- The database cannot be written. -/
  | unwritten {settings : Settings} {logs : List (List Char)} {parts : List (List Record)}
    {failure : Failure} {after : Workspace} (hsettings : before.settings options = .ok settings)
    (hlogs : before.logs options.inputs = .ok logs)
    (hparts : BuildLog.recordsByLog? logs = some parts)
    (hput : (before.counted settings parts).put (.ofParts parts) settings.output =
      (.error failure, after)) :
    Ends before options (.error failure) after
  /-- The database has been written. -/
  | written {settings : Settings} {logs : List (List Char)} {parts : List (List Record)}
    {after : Workspace} (hsettings : before.settings options = .ok settings)
    (hlogs : before.logs options.inputs = .ok logs)
    (hparts : BuildLog.recordsByLog? logs = some parts)
    (hput : (before.counted settings parts).put (.ofParts parts) settings.output =
      (.ok (), after)) :
    Ends before options (.ok ()) (after.say ((before.filterFor settings).shown
      [.wrote settings.output (Database.ofParts parts).size]))

/-! ### The stages in a row -/

section Build

variable {before : Workspace} {options : Options} {settings : Settings}

/-- A run with settings logs its start and goes on with the build logs. -/
theorem evaluate_build_of_settings (hsettings : before.settings options = .ok settings) :
    evaluate (build options) before =
      evaluate (readLogs options.inputs >>= buildFrom (before.filterFor settings) settings.output)
        (before.started settings) := by
  have hload := evaluate_loadSettings before options
  rw [hsettings] at hload
  rw [build, evaluate_bind_of_ok hload, evaluate_liftM_bind, outcome_warnAboutLevel,
    evaluate_liftM_bind, outcome_chooseFilter, evaluate_liftM_bind, outcome_log,
    Workspace.say_say, Workspace.say_say]
  rfl

/-- A run whose build logs cannot be read ends there. -/
private theorem evaluate_build_of_unread {failure : Failure}
    (hsettings : before.settings options = .ok settings)
    (hlogs : before.logs options.inputs = .error failure) :
    evaluate (build options) before = (.error failure, before.started settings) := by
  have hread := evaluate_readLogs (before.started settings) options.inputs
  rw [Workspace.started, Workspace.logs_say, hlogs] at hread
  rw [evaluate_build_of_settings hsettings]
  exact evaluate_bind_of_error hread

/-- A run with build logs goes on with them. -/
private theorem evaluate_build_of_logs {logs : List (List Char)}
    (hsettings : before.settings options = .ok settings)
    (hlogs : before.logs options.inputs = .ok logs) :
    evaluate (build options) before =
      evaluate (buildFrom (before.filterFor settings) settings.output logs)
        (before.started settings) := by
  have hread := evaluate_readLogs (before.started settings) options.inputs
  rw [Workspace.started, Workspace.logs_say, hlogs] at hread
  rw [evaluate_build_of_settings hsettings]
  exact evaluate_bind_of_ok hread

/-- A run with records goes on to write the database. -/
private theorem evaluate_buildFrom_of_parts {logs : List (List Char)} {parts : List (List Record)}
    (hparts : BuildLog.recordsByLog? logs = some parts) :
    evaluate (buildFrom (before.filterFor settings) settings.output logs)
        (before.started settings) =
      evaluate (writeDatabase (.ofParts parts) settings.output >>= fun _ =>
        liftM (log (before.filterFor settings)
          (.wrote settings.output (Database.ofParts parts).size) : StateM Workspace Unit))
        (before.counted settings parts) := by
  rw [buildFrom, hparts]
  show evaluate (liftM (logParts (before.filterFor settings) parts : StateM Workspace Unit) >>= _)
    _ = _
  rw [evaluate_liftM_bind, outcome_logParts]
  rfl

/-- **Every run ends in one of the five ways.** -/
theorem ends_build (before : Workspace) (options : Options) :
    Ends before options (evaluate (build options) before).1
      (evaluate (build options) before).2 := by
  cases hsettings : before.settings options with
  | error failure =>
    have hload := evaluate_loadSettings before options
    rw [hsettings] at hload
    have hbuild : evaluate (build options) before = (.error failure, before) :=
      evaluate_bind_of_error hload
    rw [hbuild]
    exact .unsettled hsettings
  | ok settings =>
    cases hlogs : before.logs options.inputs with
    | error failure =>
      rw [evaluate_build_of_unread hsettings hlogs]
      exact .unread hsettings hlogs
    | ok logs =>
      rw [evaluate_build_of_logs hsettings hlogs]
      cases hparts : BuildLog.recordsByLog? logs with
      | none =>
        rw [buildFrom, hparts]
        exact .blank hsettings hlogs hparts
      | some parts =>
        rw [evaluate_buildFrom_of_parts hparts]
        have hwrite := evaluate_writeDatabase (.ofParts parts) settings.output
          (before.counted settings parts)
        rcases hput : (before.counted settings parts).put (.ofParts parts) settings.output with
          ⟨failure | _, after⟩
        · rw [hput] at hwrite
          rw [evaluate_bind_of_error hwrite]
          exact .unwritten hsettings hlogs hparts hput
        · rw [hput] at hwrite
          rw [evaluate_bind_of_ok hwrite, evaluate_liftM, outcome_log]
          exact .written hsettings hlogs hparts hput

end Build

/-! ### Whole runs -/

/-- The exit code of a run, given how it has ended. -/
def exitCode : Except Failure Unit → UInt32
  | .ok () => 0
  | .error _ => 1

/-- The last lines that a run reports, given how it has ended. -/
def closing : Except Failure Unit → List String
  | .ok () => []
  | .error .emptyInput => [Help.long]
  | .error failure => ["error " ++ failure.message]

/-- The exit code is zero exactly if the run has ended well. -/
theorem exitCode_eq_zero_iff {result : Except Failure Unit} :
    exitCode result = 0 ↔ result = .ok () := by
  cases result with
  | ok => exact ⟨fun _ => rfl, fun _ => rfl⟩
  | error failure =>
    have hone : exitCode (.error failure) = 1 := rfl
    rw [hone]
    exact ⟨fun h => absurd h (by decide), fun h => by cases h⟩

private theorem outcome_conclude (result : Except Failure Unit) (workspace : Workspace) :
    outcome (conclude result) workspace = (exitCode result, workspace.say (closing result)) := by
  rcases result with (_ | _ | _ | _) | _ <;> rfl

/-- A whole run that is asked to write a database. -/
theorem outcome_run {arguments : List String} {options : Options}
    (h : Request.ofArguments arguments = .run options) (before : Workspace) :
    ∃ result after, Ends before options result after ∧
      outcome (run arguments) before = (exitCode result, after.say (closing result)) := by
  refine ⟨_, _, ends_build before options, ?_⟩
  rw [run, h, ← outcome_conclude]
  rfl

end Program

end CompileCommands
