import CompileCommands.Proofs.Files.Contents
import CompileCommands.Proofs.Program.AllOrNothing

/-!
# The first failure decides

A run goes through five stages: it understands its arguments, loads the configuration, reads the
build logs in the order in which they are given, looks whether they are all blank, and writes the
database. Whether a stage fails can be said of the workspace before the run, for each stage by
itself, and several stages may fail at once. The run fails exactly if some stage does. What it
reports, and its exit code, are those of the first stage that fails. Nothing is reported that
belongs to a later one: neither does a log line of a later stage appear, nor another failure.
Whether the database can be written may depend on the database, since standard output may take a
part of it only. What is looked at is then the database of the build logs that can be read.

## Main definitions

* `Source`: a build log as it is read, with `Workspace.sources` those of a run.
* `Workspace.readable`: the database of the build logs that can be read.
* `Stage`: the stages of a run, in their order.
* `Stage.Fails`: a stage fails.
* `Stage.FailsFirst`: a stage fails, and none before it does.
* `Stage.EndsRun`: the exit code of a run that ends at a stage, and what it leaves behind.

## Main results

* `mapM_eq_error_iff`: the first item that cannot be read decides.
* `Program.Ends.endsRun`: each way in which a run fails is the end at the first failing stage.
* `Program.ends_at_first_failure`: the first failure decides.
-/

namespace CompileCommands

open Text (decodeUtf8? isAllBlank)

section MapM

variable {α β ε : Type} {read : α → Except ε β}

/-- Reading all items fails exactly if some item cannot be read, and then like the first such. -/
theorem mapM_eq_error_iff {items : List α} {failure : ε} :
    items.mapM read = .error failure ↔
      ∃ earlier item later, items = earlier ++ item :: later ∧
        (∀ other ∈ earlier, ∃ value, read other = .ok value) ∧ read item = .error failure := by
  induction items with
  | nil => simp [pure, Except.pure]
  | cons first rest ih =>
    rw [List.mapM_cons]
    cases hfirst : read first with
    | error cause =>
      constructor
      · intro h
        cases h
        exact ⟨[], first, rest, rfl, by simp, hfirst⟩
      · rintro ⟨_ | ⟨other, earlier⟩, item, later, heq, hearlier, hitem⟩
        · cases heq
          have hsame := hfirst.symm.trans hitem
          cases hsame
          rfl
        · cases heq
          obtain ⟨value, hvalue⟩ := hearlier first List.mem_cons_self
          rw [hfirst] at hvalue
          cases hvalue
    | ok value =>
      have hrest : (do let a ← Except.ok value; let b ← rest.mapM read; pure (a :: b)) =
          Except.error failure ↔ rest.mapM read = .error failure := by
        cases hrest : rest.mapM read <;> simp [bind, Except.bind, pure, Except.pure]
      rw [hrest, ih]
      constructor
      · rintro ⟨earlier, item, later, rfl, hearlier, hitem⟩
        refine ⟨first :: earlier, item, later, rfl, fun other hother => ?_, hitem⟩
        rcases List.mem_cons.1 hother with rfl | hother
        · exact ⟨value, hfirst⟩
        · exact hearlier other hother
      · rintro ⟨_ | ⟨other, earlier⟩, item, later, heq, hearlier, hitem⟩
        · cases heq
          rw [hfirst] at hitem
          cases hitem
        · cases heq
          exact ⟨earlier, item, later, rfl,
            fun other hother => hearlier other (List.mem_cons_of_mem _ hother), hitem⟩

/-- Reading all items yields what each of them yields. -/
private theorem map_eq_of_mapM {items : List α} {values : List β}
    (h : items.mapM read = .ok values) : items.map read = values.map .ok := by
  induction items generalizing values with
  | nil =>
    cases h
    rfl
  | cons first rest ih =>
    rw [List.mapM_cons] at h
    cases hfirst : read first with
    | error cause =>
      rw [hfirst] at h
      cases h
    | ok value =>
      cases hrest : rest.mapM read with
      | error cause =>
        rw [hfirst, hrest] at h
        cases h
      | ok others =>
        rw [hfirst, hrest] at h
        cases h
        rw [List.map_cons, List.map_cons, hfirst, ih hrest]

end MapM

/-! ### Build logs as they are read -/

/-- A build log as it is read: the name of the place it comes from, and what came of reading it. -/
structure Source where
  /-- The path of the file as it was given, or the name of standard input. -/
  name : String
  /-- The bytes, or why they cannot be read. -/
  content : Except FileError (List UInt8)

namespace Source

/-- The text of a build log, if it can be read and is UTF-8. -/
def text? (source : Source) : Option (List Char) :=
  match source.content with
  | .ok bytes => decodeUtf8? bytes
  | .error _ => none

/-- Why a build log cannot be used, if it cannot. -/
def fault? (source : Source) : Option FileError :=
  match source.content with
  | .error cause => some cause
  | .ok bytes => if decodeUtf8? bytes = none then some .notUtf8 else none

/-- The text of a build log, or the failure that a run reports. -/
def read (source : Source) : Except Failure (List Char) :=
  match source.content with
  | .ok bytes => Workspace.decode source.name bytes
  | .error cause => .error (.file source.name cause)

theorem read_eq_ok_iff {source : Source} {text : List Char} :
    source.read = .ok text ↔ source.text? = some text := by
  obtain ⟨name, cause | bytes⟩ := source
  · simp [read, text?]
  · cases h : decodeUtf8? bytes <;> simp [read, text?, Workspace.decode, h]

private theorem read_eq_error_iff {source : Source} {failure : Failure} :
    source.read = .error failure ↔
      ∃ cause, source.fault? = some cause ∧ failure = .file source.name cause := by
  obtain ⟨name, cause | bytes⟩ := source
  · simp [read, fault?, eq_comm]
  · cases h : decodeUtf8? bytes <;> simp [read, fault?, Workspace.decode, h, eq_comm]

/-- A build log that can be read yields its text. -/
private theorem text?_eq_toOption (source : Source) : source.text? = source.read.toOption := by
  obtain ⟨name, cause | bytes⟩ := source
  · rfl
  · cases h : decodeUtf8? bytes <;> simp [read, text?, Workspace.decode, h, Except.toOption]

/-- A build log has a text or a fault. -/
theorem fault?_eq_none_iff {source : Source} :
    source.fault? = none ↔ ∃ text, source.text? = some text := by
  obtain ⟨name, cause | bytes⟩ := source
  · simp [fault?, text?]
  · cases h : decodeUtf8? bytes <;> simp [fault?, text?, h]

end Source

namespace Workspace

/-- The build logs of a run, in order: those in the given files, or the one on standard input if no
file is given. -/
def sources (workspace : Workspace) : (paths : List String) → List Source
  | [] => [⟨Program.inputName, .ok workspace.input⟩]
  | paths => paths.map fun path => ⟨path, workspace.files.read path⟩

/-- The texts of the build logs of a run are read one after the other. -/
theorem logs_eq_mapM (workspace : Workspace) (paths : List String) :
    workspace.logs paths = (workspace.sources paths).mapM Source.read := by
  cases paths with
  | nil => rfl
  | cons path paths =>
    have hmap (paths : List String) : paths.mapM workspace.text =
        (paths.map fun path => ⟨path, workspace.files.read path⟩).mapM Source.read := by
      rw [List.mapM_map]
      rfl
    exact hmap (path :: paths)

/-- Build logs that can be read are the texts of their sources. -/
theorem map_read_of_logs {workspace : Workspace} {paths : List String} {logs : List (List Char)}
    (h : workspace.logs paths = .ok logs) :
    (workspace.sources paths).map Source.read = logs.map .ok := by
  rw [logs_eq_mapM] at h
  exact map_eq_of_mapM h

/-- The database of the build logs that can be read. -/
def readable (workspace : Workspace) (paths : List String) : Database :=
  ⟨((workspace.sources paths).filterMap Source.text?).flatMap BuildLog.records⟩

/-- If all build logs can be read, it is the database of all of them. -/
theorem readable_of_logs {workspace : Workspace} {paths : List String} {logs : List (List Char)}
    {parts : List (List Record)} (hlogs : workspace.logs paths = .ok logs)
    (hparts : BuildLog.recordsByLog? logs = some parts) :
    workspace.readable paths = .ofParts parts := by
  have htexts : (workspace.sources paths).filterMap Source.text? = logs := by
    have hread : Source.text? = Except.toOption ∘ Source.read := funext Source.text?_eq_toOption
    rw [hread, ← List.filterMap_map, map_read_of_logs hlogs, List.filterMap_map]
    exact List.filterMap_some
  rw [readable, htexts, BuildLog.ofParts_recordsByLog? hparts]

end Workspace

/-! ### Stages -/

/-- The stages of a run. -/
inductive Stage where
  /-- The arguments are understood. -/
  | arguments
  /-- The configuration is loaded. -/
  | configuration
  /-- The build logs are read. -/
  | reading
  /-- It is looked whether all build logs are blank. -/
  | emptiness
  /-- The database is written. -/
  | writing
  deriving DecidableEq, Repr

namespace Stage

/-- The place of a stage in the order of the stages. -/
def number : Stage → Nat
  | .arguments => 0
  | .configuration => 1
  | .reading => 2
  | .emptiness => 3
  | .writing => 4

variable (before : Workspace) (arguments : List String)

/-- A stage fails, whatever the others do. The arguments cannot be understood; the configuration
cannot be loaded; some build log cannot be read; all build logs that can be read are blank; the
database of the build logs that can be read cannot be written to the place that is asked for. -/
def Fails : Stage → Prop
  | .arguments => ∃ cause, Request.ofArguments arguments = .misuse cause
  | .configuration => ∃ options, Request.ofArguments arguments = .run options ∧
    ∃ failure, before.config options.config? = .error failure
  | .reading => ∃ options, Request.ofArguments arguments = .run options ∧
    ∃ source ∈ before.sources options.inputs, source.fault? ≠ none
  | .emptiness => ∃ options, Request.ofArguments arguments = .run options ∧
    ∀ source ∈ before.sources options.inputs, ∀ text ∈ source.text?, isAllBlank text = true
  | .writing => ∃ options config, Request.ofArguments arguments = .run options ∧
    before.config options.config? = .ok config ∧ ∃ failure,
      (before.put (before.readable options.inputs) (.ofText (options.place config))).1 =
        .error failure

/-- A stage fails, and none before it does. -/
structure FailsFirst (stage : Stage) : Prop where
  /-- The stage fails. -/
  fails : stage.Fails before arguments
  /-- No earlier stage fails. -/
  earlier : ∀ other : Stage, other.number < stage.number → ¬ other.Fails before arguments

/-- The exit code of a run that ends at a stage, and the workspace it leaves behind. Everything is
as before, but for the lines that the earlier stages have logged and for a last one, which reports
the failure, and for what writing the database leaves behind where it fails. A build log is reported
under its name, and it is the first that has a fault. For lack of build output the long help is
shown instead of an error. -/
inductive EndsRun : Stage → UInt32 → Workspace → Prop
  | arguments {cause : UsageError} (hasked : Request.ofArguments arguments = .misuse cause) :
    EndsRun .arguments 2 (before.say ["error: " ++ before.wording.misuse cause])
  | configuration {options : Options} {failure : Failure}
    (hasked : Request.ofArguments arguments = .run options)
    (hconfig : before.config options.config? = .error failure) :
    EndsRun .configuration 1 (before.say ["error " ++ failure.message])
  | reading {options : Options} {settings : Settings} {earlier later : List Source}
    {source : Source} {cause : FileError} (hasked : Request.ofArguments arguments = .run options)
    (hsettings : before.settings options = .ok settings)
    (hsources : before.sources options.inputs = earlier ++ source :: later)
    (hearlier : ∀ other ∈ earlier, other.fault? = none) (hfault : source.fault? = some cause) :
    EndsRun .reading 1
      ((before.started settings).say ["error " ++ (source.name ++ ": " ++ cause.message)])
  | emptiness {options : Options} {settings : Settings}
    (hasked : Request.ofArguments arguments = .run options)
    (hsettings : before.settings options = .ok settings) :
    EndsRun .emptiness 1 ((before.started settings).say [Help.long])
  | writing {options : Options} {settings : Settings} {logs : List (List Char)}
    {parts : List (List Record)} {cause : FileError} {after : Workspace}
    (hasked : Request.ofArguments arguments = .run options)
    (hsettings : before.settings options = .ok settings)
    (hlogs : before.logs options.inputs = .ok logs)
    (hparts : BuildLog.recordsByLog? logs = some parts)
    (hput : (before.counted settings parts).put (.ofParts parts) settings.output =
      (.error (.file settings.output.place cause), after)) :
    EndsRun .writing 1 (after.say ["error " ++ (settings.output.place ++ ": " ++ cause.message)])

theorem number_injective : Function.Injective number := by
  rintro (_ | _) (_ | _) h <;> first | rfl | cases h

/-- One stage at most is the first to fail. -/
theorem FailsFirst.unique {before : Workspace} {arguments : List String} {stage other : Stage}
    (h : stage.FailsFirst before arguments) (hother : other.FailsFirst before arguments) :
    stage = other := by
  rcases Nat.lt_trichotomy stage.number other.number with hlt | heq | hlt
  · exact absurd h.fails (hother.earlier stage hlt)
  · exact number_injective heq
  · exact absurd hother.fails (h.earlier other hlt)

end Stage

/-! ### When the stages fail -/

namespace Workspace

variable {workspace : Workspace}

/-- A configuration that cannot be loaded is not for lack of build output. -/
private theorem configIn_ne_emptyInput (path : String) :
    workspace.configIn path ≠ .error .emptyInput := by
  rw [configIn, text]
  cases workspace.files.read path with
  | error cause => simp [bind, Except.bind]
  | ok bytes =>
    cases htext : decodeUtf8? bytes with
    | none => simp [decode, htext, bind, Except.bind]
    | some text => cases h : Config.parse? text <;> simp [decode, htext, bind, Except.bind, h]

private theorem config_ne_emptyInput (path? : Option String) :
    workspace.config path? ≠ .error .emptyInput := by
  cases path? with
  | some path =>
    rw [config]
    split
    case h_5 => exact configIn_ne_emptyInput path
    all_goals simp
  | none =>
    rw [config]
    split
    case h_4 => exact configIn_ne_emptyInput Config.defaultFile
    all_goals simp

/-- The settings cannot be loaded exactly if the configuration cannot. -/
theorem settings_eq_error_iff {options : Options} {failure : Failure} :
    workspace.settings options = .error failure ↔
      workspace.config options.config? = .error failure := by
  rw [Workspace.settings]
  cases workspace.config options.config? <;> simp [bind, Except.bind]

/-- The first build log with a fault decides. -/
theorem logs_eq_error_iff {paths : List String} {failure : Failure} :
    workspace.logs paths = .error failure ↔
      ∃ earlier source later cause, workspace.sources paths = earlier ++ source :: later ∧
        (∀ other ∈ earlier, other.fault? = none) ∧ source.fault? = some cause ∧
        failure = .file source.name cause := by
  rw [logs_eq_mapM, mapM_eq_error_iff]
  simp only [Source.read_eq_ok_iff, Source.read_eq_error_iff, ← Source.fault?_eq_none_iff]
  constructor
  · rintro ⟨earlier, source, later, hsources, hearlier, cause, hfault, rfl⟩
    exact ⟨earlier, source, later, cause, hsources, hearlier, hfault, rfl⟩
  · rintro ⟨earlier, source, later, cause, hsources, hearlier, hfault, rfl⟩
    exact ⟨earlier, source, later, hsources, hearlier, cause, hfault, rfl⟩

/-- What has been reported makes no difference to what is written. -/
theorem writesAlike_say (workspace : Workspace) (lines : List String) :
    (workspace.say lines).WritesAlike workspace :=
  ⟨⟨rfl, fun _ => .same _⟩, rfl, rfl, rfl⟩

end Workspace

namespace Stage

variable {before : Workspace} {arguments : List String} {options : Options}

theorem not_fails_arguments (hasked : Request.ofArguments arguments = .run options) :
    ¬ Stage.arguments.Fails before arguments := by
  rintro ⟨cause, hmisuse⟩
  rw [hasked] at hmisuse
  cases hmisuse

private theorem fails_configuration_iff (hasked : Request.ofArguments arguments = .run options) :
    Stage.configuration.Fails before arguments ↔
      ∃ failure, before.settings options = .error failure := by
  simp only [Fails, hasked, Request.run.injEq, exists_eq_left', Workspace.settings_eq_error_iff]

theorem fails_reading_iff (hasked : Request.ofArguments arguments = .run options) :
    Stage.reading.Fails before arguments ↔
      ∃ failure, before.logs options.inputs = .error failure := by
  simp only [Fails, hasked, Request.run.injEq, exists_eq_left']
  constructor
  · rintro ⟨source, hsource, hfault⟩
    cases hlogs : before.logs options.inputs with
    | error failure => exact ⟨failure, rfl⟩
    | ok logs =>
      have hread := List.mem_map_of_mem hsource (f := Source.read)
      rw [Workspace.map_read_of_logs hlogs, List.mem_map] at hread
      obtain ⟨text, -, htext⟩ := hread
      exact absurd (Source.fault?_eq_none_iff.2 ⟨text, Source.read_eq_ok_iff.1 htext.symm⟩) hfault
  · rintro ⟨failure, hlogs⟩
    obtain ⟨earlier, source, later, cause, hsources, -, hfault, -⟩ :=
      Workspace.logs_eq_error_iff.1 hlogs
    exact ⟨source, by simp [hsources], by simp [hfault]⟩

private theorem fails_emptiness_iff (hasked : Request.ofArguments arguments = .run options)
    {logs : List (List Char)} (hlogs : before.logs options.inputs = .ok logs) :
    Stage.emptiness.Fails before arguments ↔ BuildLog.recordsByLog? logs = none := by
  have hread (log : List Char) :
      log ∈ logs ↔ ∃ source ∈ before.sources options.inputs, log ∈ source.text? := by
    have hmem : log ∈ logs ↔ Except.ok log ∈ logs.map (Except.ok : _ → Except Failure _) := by simp
    rw [hmem, ← Workspace.map_read_of_logs hlogs, List.mem_map]
    simp only [Source.read_eq_ok_iff, Option.mem_def]
  have hblank : BuildLog.recordsByLog? logs = none ↔ ∀ log ∈ logs, isAllBlank log = true := by
    simp [BuildLog.recordsByLog?]
  simp only [Fails, hasked, Request.run.injEq, exists_eq_left', hblank, hread]
  constructor
  · rintro h log ⟨source, hsource, htext⟩
    exact h source hsource log htext
  · intro h source hsource log htext
    exact h log ⟨source, hsource, htext⟩

private theorem fails_writing_iff (hasked : Request.ofArguments arguments = .run options)
    {settings : Settings} (hsettings : before.settings options = .ok settings) :
    Stage.writing.Fails before arguments ↔
      ∃ failure, (before.put (before.readable options.inputs) settings.output).1 =
        .error failure := by
  obtain ⟨config, hconfig, houtput⟩ := Workspace.settings_eq_ok hsettings
  simp only [Fails, hasked, hconfig, houtput, Request.run.injEq, Except.ok.injEq,
    exists_and_left, exists_eq_left']

/-- The records of all build logs cannot be written. -/
theorem fails_writing_iff_put (hasked : Request.ofArguments arguments = .run options)
    {settings : Settings} (hsettings : before.settings options = .ok settings)
    {logs : List (List Char)} (hlogs : before.logs options.inputs = .ok logs)
    {parts : List (List Record)} (hparts : BuildLog.recordsByLog? logs = some parts) :
    Stage.writing.Fails before arguments ↔
      ∃ failure, ((before.counted settings parts).put (.ofParts parts) settings.output).1 =
        .error failure := by
  rw [fails_writing_iff hasked hsettings, Workspace.readable_of_logs hlogs hparts,
    Workspace.counted_eq_say, ((before.writesAlike_say _).put_eq _ _).1]

/-- A run that fails leaves the files as they were. It leaves nothing on standard output, unless it
fails in writing the database and standard output has a limit. -/
theorem EndsRun.unchanged {stage : Stage} {code : UInt32} {after : Workspace}
    (h : stage.EndsRun before arguments code after) :
    after.files = before.files ∧
      (after.output = before.output ∨ stage = .writing ∧ before.outlet.limit? ≠ none) := by
  cases h with
  | arguments | configuration =>
    rw [Workspace.files_say, Workspace.output_say]
    exact ⟨rfl, .inl rfl⟩
  | reading | emptiness =>
    rw [Workspace.files_say, Workspace.files_started, Workspace.output_say,
      Workspace.output_started]
    exact ⟨rfl, .inl rfl⟩
  | writing _ _ _ _ hput =>
    rw [Workspace.counted_eq_say] at hput
    obtain ⟨_, hsends, -⟩ := Workspace.exists_sends_of_put_eq_error hput
    rw [Workspace.files_say, Workspace.output_say]
    refine ⟨hsends.files_eq, hsends.output_cases.imp_right ?_⟩
    rintro ⟨limit, -, hlimit, -⟩
    exact ⟨rfl, Option.ne_none_iff_exists'.2 ⟨limit, hlimit⟩⟩

/-! ### The stages that a run has gone through -/

section Passed

variable {settings : Settings} {logs : List (List Char)} {parts : List (List Record)}
  {other : Stage}

private theorem not_fails_before_configuration
    (hasked : Request.ofArguments arguments = .run options)
    (hlt : other.number < Stage.configuration.number) : ¬ other.Fails before arguments := by
  have hother : other = .arguments := number_injective (Nat.lt_one_iff.1 hlt)
  rw [hother]
  exact not_fails_arguments hasked

theorem not_fails_before_reading (hasked : Request.ofArguments arguments = .run options)
    (hsettings : before.settings options = .ok settings)
    (hlt : other.number < Stage.reading.number) : ¬ other.Fails before arguments := by
  rcases Nat.lt_succ_iff_lt_or_eq.1 hlt with hlt | heq
  · exact not_fails_before_configuration hasked hlt
  · have hother : other = .configuration := number_injective heq
    simp [hother, fails_configuration_iff hasked, hsettings]

private theorem not_fails_before_emptiness (hasked : Request.ofArguments arguments = .run options)
    (hsettings : before.settings options = .ok settings)
    (hlogs : before.logs options.inputs = .ok logs)
    (hlt : other.number < Stage.emptiness.number) : ¬ other.Fails before arguments := by
  rcases Nat.lt_succ_iff_lt_or_eq.1 hlt with hlt | heq
  · exact not_fails_before_reading hasked hsettings hlt
  · have hother : other = .reading := number_injective heq
    simp [hother, fails_reading_iff hasked, hlogs]

private theorem not_fails_before_writing (hasked : Request.ofArguments arguments = .run options)
    (hsettings : before.settings options = .ok settings)
    (hlogs : before.logs options.inputs = .ok logs)
    (hparts : BuildLog.recordsByLog? logs = some parts)
    (hlt : other.number < Stage.writing.number) : ¬ other.Fails before arguments := by
  rcases Nat.lt_succ_iff_lt_or_eq.1 hlt with hlt | heq
  · exact not_fails_before_emptiness hasked hsettings hlogs hlt
  · have hother : other = .emptiness := number_injective heq
    simp [hother, fails_emptiness_iff hasked hlogs, hparts]

end Passed

end Stage

/-! ### Runs -/

namespace Program

variable {before ended : Workspace} {arguments : List String} {options : Options}

/-- A run that succeeds has gone through all stages. -/
theorem Ends.not_fails (hasked : Request.ofArguments arguments = .run options)
    (h : Ends before options (.ok ()) ended) (stage : Stage) :
    ¬ stage.Fails before arguments := by
  cases h with
  | @written settings logs parts _ hsettings hlogs hparts hput =>
    by_cases hlt : stage.number < Stage.writing.number
    · exact Stage.not_fails_before_writing hasked hsettings hlogs hparts hlt
    · have hstage : stage = .writing := by
        cases stage <;> first | rfl | exact absurd (by decide) hlt
      rw [hstage, Stage.fails_writing_iff_put hasked hsettings hlogs hparts, hput]
      rintro ⟨failure, hfailure⟩
      cases hfailure

/-- **A run that fails ends at the first stage that fails.** -/
theorem Ends.endsRun {failure : Failure} (hasked : Request.ofArguments arguments = .run options)
    (h : Ends before options (.error failure) ended) :
    ∃ stage : Stage, stage.FailsFirst before arguments ∧
      stage.EndsRun before arguments 1 (ended.say (closing (.error failure))) := by
  cases h with
  | unsettled hsettings =>
    have hconfig := Workspace.settings_eq_error_iff.1 hsettings
    have hclosing : closing (.error failure) = ["error " ++ failure.message] := by
      cases failure with
      | emptyInput => exact absurd hconfig (Workspace.config_ne_emptyInput _)
      | _ => rfl
    rw [hclosing]
    exact ⟨.configuration, ⟨(Stage.fails_configuration_iff hasked).2 ⟨failure, hsettings⟩,
      fun _ => Stage.not_fails_before_configuration hasked⟩, .configuration hasked hconfig⟩
  | unread hsettings hlogs =>
    obtain ⟨earlier, source, later, cause, hsources, hearlier, hfault, rfl⟩ :=
      Workspace.logs_eq_error_iff.1 hlogs
    exact ⟨.reading, ⟨(Stage.fails_reading_iff hasked).2 ⟨_, hlogs⟩,
      fun _ => Stage.not_fails_before_reading hasked hsettings⟩,
      .reading hasked hsettings hsources hearlier hfault⟩
  | blank hsettings hlogs hparts =>
    exact ⟨.emptiness, ⟨(Stage.fails_emptiness_iff hasked hlogs).2 hparts,
      fun _ => Stage.not_fails_before_emptiness hasked hsettings hlogs⟩,
      .emptiness hasked hsettings⟩
  | unwritten hsettings hlogs hparts hput =>
    obtain ⟨_, -, rfl⟩ := Workspace.exists_sends_of_put_eq_error hput
    exact ⟨.writing, ⟨(Stage.fails_writing_iff_put hasked hsettings hlogs hparts).2
        ⟨_, congrArg Prod.fst hput⟩,
      fun _ => Stage.not_fails_before_writing hasked hsettings hlogs hparts⟩,
      .writing hasked hsettings hlogs hparts hput⟩

variable {after : Workspace} {code : UInt32}

/-- A run ends well and no stage fails, or it ends at the first stage that fails. -/
private theorem not_fails_or_endsRun (hrequest : (Request.ofArguments arguments).isAnswered = false)
    (hrun : outcome (run arguments) before = (code, after)) :
    (code = 0 ∧ ∀ stage : Stage, ¬ stage.Fails before arguments) ∨
      (code ≠ 0 ∧ ∃ stage : Stage, stage.FailsFirst before arguments ∧
        stage.EndsRun before arguments code after) := by
  cases hasked : Request.ofArguments arguments with
  | shortHelp | longHelp | version =>
    rw [hasked] at hrequest
    cases hrequest
  | misuse cause =>
    rw [run, hasked] at hrun
    cases hrun
    refine .inr ⟨by decide, .arguments, ⟨⟨cause, hasked⟩, fun other hlt => ?_⟩,
      .arguments hasked⟩
    exact absurd hlt (Nat.not_lt_zero _)
  | run options =>
    obtain ⟨result, ended, hends, houtcome⟩ := outcome_run hasked before
    rw [hrun] at houtcome
    cases houtcome
    cases result with
    | ok => exact .inl ⟨rfl, hends.not_fails hasked⟩
    | error failure =>
      obtain ⟨stage, hfirst, hended⟩ := hends.endsRun hasked
      have hcode : exitCode (.error failure) ≠ 0 := fun h => by cases exitCode_eq_zero_iff.1 h
      exact .inr ⟨hcode, stage, hfirst, hended⟩

/-- **The first failure decides.** A run that is not for help or for the version ends with an exit
code other than zero exactly if some stage fails. Then one stage is the first to fail, and whichever
others fail too, the exit code and what is reported are those of this stage. No file is changed, and
nothing is printed, unless it is in writing the database that the run fails, and standard output has
a limit. -/
theorem ends_at_first_failure (hrequest : (Request.ofArguments arguments).isAnswered = false)
    (hrun : outcome (run arguments) before = (code, after)) :
    (code ≠ 0 ↔ ∃ stage : Stage, stage.Fails before arguments) ∧
    (code ≠ 0 → ∃ stage : Stage, stage.FailsFirst before arguments) ∧
    (∀ stage : Stage, stage.FailsFirst before arguments →
      stage.EndsRun before arguments code after ∧ after.files = before.files ∧
        (after.output = before.output ∨ stage = .writing ∧ before.outlet.limit? ≠ none)) := by
  obtain ⟨rfl, hnone⟩ | ⟨hcode, stage, hfirst, hended⟩ := not_fails_or_endsRun hrequest hrun
  · exact ⟨iff_of_false (fun h => h rfl) (not_exists.2 hnone), fun h => absurd rfl h,
      fun stage hfirst => absurd hfirst.fails (hnone stage)⟩
  · refine ⟨⟨fun _ => ⟨stage, hfirst.fails⟩, fun _ => hcode⟩, fun _ => ⟨stage, hfirst⟩,
      fun other hother => ?_⟩
    rw [hother.unique hfirst]
    exact ⟨hended, hended.unchanged⟩

/-- Of three build logs a blank one can be read, one is missing and one is below a file, and the
database cannot be written either. The missing one is reported. -/
theorem ends_at_missing_log :
    let before : Workspace := { files := { entries := [(["blank"], .file [0x20])] } }
    let arguments := ["-i", "blank", "-i", "missing", "-i", "blank/below", "none/out"]
    let ending := outcome (run arguments) before
    (Request.ofArguments arguments).isAnswered = false ∧
      Stage.emptiness.Fails before arguments ∧ Stage.writing.Fails before arguments ∧
      Stage.reading.FailsFirst before arguments ∧
      Stage.reading.EndsRun before arguments ending.1 ending.2 ∧
      ending.2.errors = "error missing: No such file or directory (os error 2)\n" := by
  intro before arguments ending
  have hrequest : (Request.ofArguments arguments).isAnswered = false := by decide
  have hasked : ∃ options, Request.ofArguments arguments = .run options ∧
      before.settings options = .ok ⟨.file "none/out", "info"⟩ ∧
      options.inputs = ["blank", "missing", "blank/below"] := ⟨_, rfl, rfl, rfl⟩
  obtain ⟨options, hasked, hsettings, hinputs⟩ := hasked
  have hblank : Stage.emptiness.Fails before arguments := by
    refine ⟨options, hasked, ?_⟩
    rw [hinputs]
    decide
  have hwriting : Stage.writing.Fails before arguments :=
    (Stage.fails_writing_iff hasked hsettings).2 ⟨.file "none/out" .notFound, rfl⟩
  have hreading : Stage.reading.FailsFirst before arguments := by
    refine ⟨(Stage.fails_reading_iff hasked).2 ⟨.file "missing" .notFound, ?_⟩,
      fun _ => Stage.not_fails_before_reading hasked hsettings⟩
    rw [hinputs]
    rfl
  exact ⟨hrequest, hblank, hwriting, hreading,
    ((ends_at_first_failure hrequest (Prod.eta ending).symm).2.2 .reading hreading).1, by decide⟩

end Program

end CompileCommands
