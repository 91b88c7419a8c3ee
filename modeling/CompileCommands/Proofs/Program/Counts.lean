import CompileCommands.Proofs.Database.RoundTrip
import CompileCommands.Proofs.Log.Lines
import CompileCommands.Proofs.Program.FirstFailure
import Mathlib.Algebra.Order.Ring.Nat

/-!
# Counted records

A run logs how many records it finds in each build log, and how many the database holds that it has
written. These numbers account for the database: each of the first ones is the number of records in
one log, and the last one is their sum, and so many records are read back from what has been
written. How much of this is logged depends on the level. A run that fails does not log that a
database has been written.

The log goes to standard error, and is all that is seen there. Only a database whose place leads to
the device for standard error is seen there too.

## Main definitions

* `Level.linesBefore`, `Level.linesAfter`: what is logged at a level, before the database is written
  and after it.
* `Workspace.Accounts`: a log that accounts for the database.
* `Program.Notice`: what is reported by a run that fails.

## Main results

* `Program.Notice.ne_line_wrote`: no such report says that a database has been written.
* `Program.log_accounts_for_database`: the log of a run.
-/

namespace CompileCommands

/-- What is logged before the database is written, given the name of the level, the place of the
database and the number of records in each build log. -/
def Level.linesBefore (name place : String) (counts : List Nat) : List String :=
  match ofName? name with
  | some .trace | some .debug =>
    Log.startLine place name ::
      counts.zipIdx.map fun (records, input) => Log.countLine input records
  | some .info | some .warn | some .error => []
  | none => [warning name]

/-- What is logged after the database has been written, given the name of the level, the place of
the database and the number of its records. -/
def Level.linesAfter (name place : String) (records : Nat) : List String :=
  match ofName? name with
  | some .warn | some .error => []
  | some .trace | some .debug | some .info | none => [Log.totalLine place records]

namespace Workspace

/-- A text with a database has been delivered at a place. The log says how many records the build
logs hold, and the text holds as many as all of them together. The log is all that is seen on
standard error. -/
structure Accounts (before after : Workspace) (place level text : String) (counts : List Nat) :
    Prop where
  /-- The text is delivered at the place. -/
  delivers : before.Delivers after place text
  /-- As many records are read from the text as all build logs hold together. -/
  loaded : ∃ records, Record.loadAll? text = some records ∧ records.length = counts.sum
  /-- What is seen on standard error. -/
  errors_eq : after.errors =
    Help.unlines (Level.linesBefore level place counts ++ Level.linesAfter level place counts.sum)
  /-- No line of the log is broken. -/
  isPlain : ∀ line ∈ Level.linesBefore level place counts ++
    Level.linesAfter level place counts.sum, Log.IsPlain line

end Workspace

/-! ### What is shown at a level -/

namespace Level

variable {name place : String} {counts : List Nat}

/-- The lines are free of control characters if the name of the level and the place are. -/
private theorem isPlain_of_mem_lines (hplace : Log.IsPlain place) (hname : Log.IsPlain name) :
    ∀ line ∈ linesBefore name place counts ++ linesAfter name place counts.sum,
      Log.IsPlain line := by
  have hcounts : ∀ line ∈ counts.zipIdx.map fun (records, input) => Log.countLine input records,
      Log.IsPlain line := by
    intro line hline
    obtain ⟨⟨records, input⟩, -, rfl⟩ := List.mem_map.1 hline
    exact Log.isPlain_countLine input records
  have hstart := Log.isPlain_startLine hplace hname
  have htotal := Log.isPlain_totalLine hplace counts.sum
  have hwarning := isPlain_warning hname
  rw [List.forall_mem_append, linesBefore, linesAfter]
  cases ofName? name with
  | none => exact ⟨List.forall_mem_singleton.2 hwarning, List.forall_mem_singleton.2 htotal⟩
  | some level =>
    cases level with
    | trace | debug =>
      exact ⟨List.forall_mem_cons.2 ⟨hstart, hcounts⟩, List.forall_mem_singleton.2 htotal⟩
    | info => exact ⟨List.forall_mem_nil _, List.forall_mem_singleton.2 htotal⟩
    | warn | error => exact ⟨List.forall_mem_nil _, List.forall_mem_nil _⟩

/-- At a level the events of another one are all shown, or none of them. -/
theorem shown_upTo {shown : Level} {events : List Event} (h : ∀ event ∈ events, event.level = shown)
    (level : Level) :
    (Filter.upTo Program.name level).shown events =
      if shown.rank ≤ level.rank then events.map Event.line else [] := by
  rw [Filter.shown]
  split
  next hle =>
    rw [List.filter_eq_self.2 fun event hevent => ?_]
    rw [Event.isShownBy_upTo, h event hevent, decide_eq_true hle]
  next hlt =>
    rw [List.filter_eq_nil_iff.2 fun event hevent => ?_, List.map_nil]
    rw [Event.isShownBy_upTo, h event hevent, decide_eq_false hlt]
    exact Bool.false_ne_true

/-- The events before the database is written are those of the lower levels. -/
theorem warnings_append_shown (name place : String) (parts : List (List Record)) :
    warnings name ++ (Filter.upTo Program.name (ofText name)).shown
        (.starting ⟨.ofText place, name⟩ :: Event.counts parts) =
      linesBefore name place (parts.map List.length) := by
  have hlevel : ∀ event ∈ Event.starting ⟨.ofText place, name⟩ :: Event.counts parts,
      event.level = .debug := by
    intro event hevent
    rcases List.mem_cons.1 hevent with rfl | hevent
    · rfl
    · obtain ⟨part, -, rfl⟩ := List.mem_map.1 hevent
      rfl
  have hcounts : (Event.counts parts).map Event.line =
      (parts.map List.length).zipIdx.map fun (records, input) => Log.countLine input records := by
    rw [Event.counts, List.zipIdx_map, List.map_map, List.map_map]
    exact List.map_congr_left fun part _ => Event.line_parsed part.2 part.1.length
  rw [shown_upTo hlevel, warnings, linesBefore, ofText, List.map_cons, Event.line_starting, hcounts]
  cases ofName? name with
  | none => rfl
  | some level => cases level <;> rfl

/-- The last event is of the level in the middle. -/
theorem shown_wrote {name place : String} (hplace : Log.IsPlain place) (records : Nat) :
    (Filter.upTo Program.name (ofText name)).shown [.wrote (.ofText place) records] =
      linesAfter name place records := by
  have hlevel : ∀ event ∈ [Event.wrote (.ofText place) records], event.level = .info :=
    List.forall_mem_singleton.2 rfl
  rw [shown_upTo hlevel, linesAfter, ofText, List.map_singleton,
    Event.line_wrote place records hplace]
  cases ofName? name with
  | none => rfl
  | some level => cases level <;> rfl

end Level

namespace Workspace

/-! ### What is seen on standard error -/

/-- Lines that are reported are closed by a line feed. -/
theorem errors_say (workspace : Workspace) (lines : List String) :
    (workspace.say lines).errors = workspace.errors ++ Help.unlines lines := by
  rw [say]
  generalize workspace.errors = errors
  induction lines generalizing errors with
  | nil => exact String.append_empty.symm
  | cons line lines ih =>
    rw [List.foldl_cons, ih, Help.unlines, Help.unlines, List.map_cons, String.join_cons]
    simp only [String.append_assoc]

end Workspace

/-! ### Runs that fail -/

/-- What stands at the front of a text does not depend on what is put behind it. -/
theorem take_toList_append {n : Nat} {front : String} (h : n ≤ front.toList.length)
    (rest : String) : (front ++ rest).toList.take n = front.toList.take n := by
  rw [String.toList_append, List.take_append_of_le_length h]

/-- The line of an event begins with its level. -/
private theorem Event.take_line (event : Event) :
    event.line.toList.take 2 = event.level.display.toList.take 2 := by
  have hlength : ∀ level : Level, 2 ≤ level.display.toList.length := by
    intro level
    cases level <;> decide
  rw [Event.line, String.append_assoc, String.append_assoc, take_toList_append (hlength _)]

namespace Program

/-- What may be reported by a run that fails. -/
inductive Notice : String → Prop
  /-- The arguments cannot be understood. -/
  | misuse (reason : String) : Notice ("error: " ++ reason)
  /-- The run has failed. -/
  | failure (failure : Failure) : Notice ("error " ++ failure.message)
  /-- There is nothing to build a database from. -/
  | help : Notice Help.long
  /-- The name of the level is none. -/
  | warning (name : String) : Notice (Level.warning name)
  /-- An entry of a filter cannot be understood. -/
  | complaint (entry : List Char) (cause : Filter.EntryError) :
    Notice ("ignoring `" ++ String.ofList entry ++ "`: " ++ cause.message)
  /-- The run has started. -/
  | starting (settings : Settings) : Notice (Event.starting settings).line
  /-- The records of a build log have been counted. -/
  | parsed (input records : Nat) : Notice (Event.parsed input records).line

/-- No such report says that a database has been written. -/
theorem Notice.ne_line_wrote {text : String} (h : Notice text) (output : Destination)
    (records : Nat) : text ≠ (Event.wrote output records).line := by
  -- the first two letters tell the reports apart
  have hinfo : Level.info.display.toList.take 2 = ['I', 'N'] := by decide
  have hdebug : Level.debug.display.toList.take 2 ≠ ['I', 'N'] := by decide
  have htake : text.toList.take 2 ≠ ['I', 'N'] := by
    cases h with
    | misuse | failure =>
      rw [take_toList_append (by decide)]
      decide
    | help =>
      have hlong : Help.long =
          "Generate a clang compilation database from make or ninja output." ++
            ("\n" ++ Help.unlines Help.longLines.tail) := by
        rw [← String.append_assoc]
        exact String.join_cons
      rw [hlong, take_toList_append (by decide)]
      decide
    | warning name =>
      have hwarning : Level.warning name = "Invalid log level '" ++
        (name ++ "', defaulting to INFO. Valid levels: trace, debug, info, warn, error") :=
        String.append_assoc ..
      rw [hwarning, take_toList_append (by decide)]
      decide
    | complaint =>
      rw [String.append_assoc, String.append_assoc, take_toList_append (by decide)]
      decide
    | starting settings => exact fun heq => hdebug ((Event.take_line _).symm.trans heq)
    | parsed input records => exact fun heq => hdebug ((Event.take_line _).symm.trans heq)
  rintro rfl
  exact htake ((Event.take_line _).trans hinfo)

section Failure

variable {before after : Workspace} {options : Options} {settings : Settings}

private theorem notice_of_mem_warnings {name : String} :
    ∀ text ∈ Level.warnings name, Notice text := by
  rw [Level.warnings]
  cases Level.ofName? name with
  | some level => exact List.forall_mem_nil _
  | none => exact List.forall_mem_singleton.2 (.warning name)

private theorem notice_of_mem_complaints : ∀ text ∈ before.complaints, Notice text := by
  rw [Workspace.complaints]
  cases before.environment.lookup filterVariable with
  | none => exact List.forall_mem_nil _
  | some filter =>
    intro text htext
    obtain ⟨entry, -, hentry⟩ := List.mem_filterMap.1 htext
    rw [Filter.complaint?] at hentry
    split at hentry
    next => cases hentry
    next cause _ =>
      cases hentry
      exact .complaint entry cause

/-- Every event but the last is a notice, if it is shown. -/
private theorem notice_of_mem_shown {filter : Filter} {parts : List (List Record)} :
    ∀ text ∈ filter.shown (.starting settings :: Event.counts parts), Notice text := by
  intro text htext
  obtain ⟨event, hevent, rfl⟩ := List.mem_map.1 htext
  rcases List.mem_cons.1 (List.mem_of_mem_filter hevent) with rfl | hevent
  · exact .starting settings
  · obtain ⟨⟨records, input⟩, -, rfl⟩ := List.mem_map.1 hevent
    exact .parsed input records.length

private theorem notice_of_mem_closing {failure : Failure} :
    ∀ text ∈ closing (.error failure), Notice text := by
  cases failure with
  | emptyInput => exact List.forall_mem_singleton.2 .help
  | file path cause => exact List.forall_mem_singleton.2 (.failure (.file path cause))
  | configNotFound path => exact List.forall_mem_singleton.2 (.failure (.configNotFound path))
  | invalidConfig path reason =>
    exact List.forall_mem_singleton.2 (.failure (.invalidConfig path reason))

/-- A run that ends in a failure has reported notices alone. -/
theorem Ends.exists_notices {failure : Failure} (h : Ends before options (.error failure) after) :
    ∃ texts, (after.say (closing (.error failure))).errors = (before.say texts).errors ∧
      ∀ text ∈ texts, Notice text := by
  have hnotices (settings : Settings) (parts : List (List Record)) :
      ∃ texts, ((before.counted settings parts).say (closing (.error failure))).errors =
        (before.say texts).errors ∧ ∀ text ∈ texts, Notice text := by
    rw [Workspace.counted_eq_say, Workspace.say_say]
    exact ⟨_, rfl, List.forall_mem_append.2 ⟨List.forall_mem_append.2
      ⟨List.forall_mem_append.2 ⟨notice_of_mem_warnings, notice_of_mem_complaints⟩,
        notice_of_mem_shown⟩, notice_of_mem_closing⟩⟩
  have hstarted (settings : Settings) : before.started settings = before.counted settings [] :=
    rfl
  cases h with
  | unsettled => exact ⟨_, rfl, notice_of_mem_closing⟩
  | unread | blank => exact hstarted _ ▸ hnotices _ []
  | unwritten _ _ _ hput =>
    obtain ⟨_, hsends, -⟩ := Workspace.exists_sends_of_put_eq_error hput
    rw [Workspace.errors_say, hsends.errors_eq_of_error, ← Workspace.errors_say]
    exact hnotices _ _

end Failure

/-! ### Whole runs -/

section Runs

variable {before after : Workspace} {options : Options}

/-- The records of the build logs are counted log by log. -/
theorem map_length_of_recordsByLog? {logs : List (List Char)} {parts : List (List Record)}
    (h : BuildLog.recordsByLog? logs = some parts) :
    parts.map List.length = logs.map fun log => (BuildLog.records log).length := by
  rw [BuildLog.recordsByLog?] at h
  split at h
  next => cases h
  next =>
    rw [← Option.some.inj h, List.map_map]
    exact List.map_congr_left fun log _ => congrArg List.length (BuildLog.records_trim log)

/-- Without a filter in the environment the level decides what is logged. -/
theorem filterFor_of_unset (hunset : before.environment.lookup filterVariable = none)
    (settings : Settings) :
    before.complaints = [] ∧
      before.filterFor settings = .upTo name (Level.ofText settings.logLevel) := by
  rw [Workspace.complaints, Workspace.filterFor, Workspace.filter, hunset]
  exact ⟨rfl, rfl⟩

/-- A run that ends well has logged numbers that account for the database. -/
theorem Ends.accounts (h : Ends before options (.ok ()) after) (hfresh : before.output = [])
    (hsilent : before.errors = "") (hunset : before.environment.lookup filterVariable = none) :
    ∃ config settings logs, before.config options.config? = .ok config ∧
      before.settings options = .ok settings ∧ before.logs options.inputs = .ok logs ∧
      (options.place config = "-" ∨ before.device? (options.place config) ≠ some .errors →
        Log.IsPlain (options.place config) → Log.IsPlain settings.logLevel →
        before.Accounts after (options.place config) settings.logLevel
          (Database.print ⟨logs.flatMap BuildLog.records⟩)
          (logs.map fun log => (BuildLog.records log).length)) := by
  cases h with
  | @written settings logs parts written hsettings hlogs hparts hput =>
    obtain ⟨config, hconfig, houtput⟩ := Workspace.settings_eq_ok hsettings
    refine ⟨config, settings, logs, hconfig, hsettings, hlogs, fun hdevice hplace hlevel => ?_⟩
    obtain ⟨output, level⟩ := settings
    dsimp only at houtput hput hlevel ⊢
    subst houtput
    obtain ⟨hcomplaints, hfilter⟩ :=
      filterFor_of_unset hunset ⟨.ofText (options.place config), level⟩
    have hdatabase := BuildLog.ofParts_recordsByLog? hparts
    have hsize : (Database.ofParts parts).size =
        (logs.map fun log => (BuildLog.records log).length).sum := by
      rw [hdatabase, Database.size, List.length_flatMap]
    rw [Workspace.counted_eq_say] at hput
    have hsends := Workspace.sends_of_put_eq_ok hput
    have herrors := hsends.errors_eq fun path hpath => by
      obtain ⟨rfl, hne⟩ := Destination.ofText_eq_file_iff.1 hpath
      exact hdevice.resolve_left hne
    rw [hdatabase] at hsends
    refine ⟨hsends.delivers hfresh _, ⟨logs.flatMap BuildLog.records,
      Database.loadAll?_print _, List.length_flatMap⟩, ?_,
      Level.isPlain_of_mem_lines hplace hlevel⟩
    rw [Workspace.errors_say, herrors, Workspace.errors_say, hsilent, String.empty_append,
      hcomplaints, List.append_nil, hfilter, Level.warnings_append_shown,
      Level.shown_wrote hplace, hsize, map_length_of_recordsByLog? hparts,
      ← Help.unlines_append]

end Runs

end Program

end CompileCommands
