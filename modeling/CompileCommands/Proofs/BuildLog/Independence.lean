import CompileCommands.Proofs.Directories.Attribution
import CompileCommands.Proofs.Text.Lines
import Mathlib.Data.List.Forall2
import Mathlib.Logic.Relation

/-!
# Lines on their own

What a line of a build log says is found in the line alone. The lines around it decide only in which
directory its compilation runs, and of those lines only the announcements and the mere presence of
compilations count. A line that neither announces a directory nor runs a compilation leaves no trace
at all, however malformed it is.

## Main definitions

* `Record.compilation`: what a record says, its directory aside.
* `BuildLog.recordsAlone`: what a line yields at the beginning of a log.
* `BuildLog.IsIdle`: a line that says nothing on its own.
* `BuildLog.Line.SameEffect`: two lines that do the same to the directories.

## Main results

* `BuildLog.compilations_run`: the compilations of lines do not depend on the directories.
* `BuildLog.run_append_other_cons`: lines that say nothing may be left out.
* `BuildLog.directories_of_sameEffect`: the directories do not depend on what is compiled.
* `BuildLog.lines_independent`: lines are independent of each other.
-/

namespace CompileCommands

open Text

/-- What a record says, its directory aside. -/
def Record.compilation (record : Record) : Compilation :=
  ⟨record.file, record.command⟩

namespace BuildLog

/-- The records that a line yields where nothing has gone before it. -/
def recordsAlone (line : List Char) : List Record :=
  (run {} [Line.ofText line]).records.toList

/-- A line that on its own neither announces a directory nor yields a record. -/
structure IsIdle (line : List Char) : Prop where
  /-- The line announces no directory. -/
  silent : Announcement.ofLine? (trim line) = none
  /-- The line yields no record. -/
  barren : recordsAlone line = []

/-- A log with one more line, which says nothing on its own. -/
def AddsIdleLine (log longer : List Char) : Prop :=
  ∃ front line back, IsIdle line ∧ lines log = front ++ back ∧ lines longer = front ++ line :: back

/-- Two lines do the same to the directories: they announce the same, or both run a compilation, or
neither says anything. -/
inductive Line.SameEffect : Line → Line → Prop
  | announcement (said : Announcement) : SameEffect (.announcement said) (.announcement said)
  | compilation (first second : Compilation) :
    SameEffect (.compilation first) (.compilation second)
  | other : SameEffect .other .other

/-! ### Compilations without directories -/

/-- The compilation that a line runs. -/
def Line.compilation? : Line → Option Compilation
  | .compilation compiled => some compiled
  | _ => none

private theorem map_compilation_record? (dirs : DirectoryStack) (line : Line) :
    (dirs.record? line).map Record.compilation = line.compilation? := by
  cases line <;> rfl

/-- The compilations of lines do not depend on the directories. -/
theorem compilations_run (dirs : DirectoryStack) (lines : List Line) :
    (run dirs lines).records.toList.map Record.compilation =
      lines.filterMap Line.compilation? := by
  induction lines generalizing dirs with
  | nil => rfl
  | cons line lines ih =>
    have hline : (dirs.record? line).toList.map Record.compilation =
        line.compilation?.toList := by
      rw [← Option.toList_map, map_compilation_record?]
    rw [records_run_cons, List.map_append, ih, hline, List.filterMap_cons]
    cases line.compilation? <;> rfl

private theorem compilations_recordsAlone (line : List Char) :
    (recordsAlone line).map Record.compilation = (Line.ofText line).compilation?.toList := by
  rw [recordsAlone, compilations_run, List.filterMap_cons, List.filterMap_nil]
  cases (Line.ofText line).compilation? <;> rfl

/-- Each line of a log has the compilation that it has alone. -/
theorem compilations_records (log : List Char) :
    (records log).map Record.compilation =
      (lines log).flatMap fun line => (recordsAlone line).map Record.compilation := by
  rw [records, compilations_run, List.filterMap_map, List.filterMap_eq_flatMap_toList]
  exact List.flatMap_congr fun line _ => (compilations_recordsAlone line).symm

/-- Two logs with a line feed between them have the compilations of both. -/
theorem compilations_append_lineFeed (a b : List Char) :
    (records (a ++ '\n' :: b)).map Record.compilation =
      (records a).map Record.compilation ++ (records b).map Record.compilation := by
  simp only [compilations_records, lines_append_lineFeed, List.flatMap_append]

/-! ### Lines that say nothing -/

/-- A line says nothing on its own exactly if it says nothing in any log. -/
theorem isIdle_iff {line : List Char} : IsIdle line ↔ Line.ofText line = .other := by
  constructor
  · rintro ⟨hsilent, hbarren⟩
    cases hline : Line.ofText line with
    | announcement said =>
      rw [Line.ofText, Line.ofTrimmed, hsilent] at hline
      dsimp only at hline
      split at hline <;> cases hline
    | compilation compiled =>
      rw [recordsAlone, hline] at hbarren
      cases hbarren
    | other => rfl
  · intro hother
    refine ⟨?_, by rw [recordsAlone, hother]; rfl⟩
    cases hsaid : Announcement.ofLine? (trim line) with
    | none => rfl
    | some said =>
      rw [Line.ofText, Line.ofTrimmed, hsaid] at hother
      cases hother

/-- A line that says nothing leaves the directories and yields nothing. -/
theorem run_append_other_cons (dirs : DirectoryStack) (front back : List Line) :
    (run dirs (front ++ .other :: back)).directories = (run dirs (front ++ back)).directories ∧
      (run dirs (front ++ .other :: back)).records.toList =
        (run dirs (front ++ back)).records.toList := by
  constructor
  · simp only [directories_run, List.foldl_append, List.foldl_cons, DirectoryStack.after]
  · rw [records_run_append, records_run_append, records_run_cons]
    rfl

private theorem records_of_addsIdleLine {log longer : List Char} (h : AddsIdleLine log longer) :
    records log = records longer := by
  obtain ⟨front, line, back, hidle, hlog, hlonger⟩ := h
  rw [records, records, hlog, hlonger, List.map_append, List.map_append, List.map_cons,
    isIdle_iff.1 hidle]
  exact (run_append_other_cons {} _ _).2.symm

/-- Lines that say nothing on their own may come and go without a trace. -/
theorem records_eq_of_eqvGen_idle {log edited : List Char}
    (h : Relation.EqvGen AddsIdleLine log edited) : records log = records edited := by
  induction h with
  | rel log longer hadds => exact records_of_addsIdleLine hadds
  | refl => rfl
  | symm _ _ _ ih => exact ih.symm
  | trans _ _ _ _ _ ih₁ ih₂ => exact ih₁.trans ih₂

/-! ### Directories without compilations -/

/-- Lines that do the same to the directories do so wherever they stand. -/
theorem Line.SameEffect.after_eq {first second : Line} (h : first.SameEffect second)
    (dirs : DirectoryStack) : dirs.after first = dirs.after second := by
  cases h <;> rfl

private theorem Line.SameEffect.directory_record?_eq {first second : Line}
    (h : first.SameEffect second) (dirs : DirectoryStack) :
    (dirs.record? first).map Record.directory = (dirs.record? second).map Record.directory := by
  cases h <;> rfl

/-- The directories of records do not depend on what is compiled. -/
theorem directories_of_sameEffect {lines others : List Line}
    (h : List.Forall₂ Line.SameEffect lines others) (dirs : DirectoryStack) :
    (run dirs lines).records.toList.map Record.directory =
      (run dirs others).records.toList.map Record.directory := by
  induction h generalizing dirs with
  | nil => rfl
  | cons hline _ ih =>
    rw [records_run_cons, records_run_cons, List.map_append, List.map_append, ← Option.toList_map,
      ← Option.toList_map, hline.directory_record?_eq, hline.after_eq, ih]

/-- **Lines are independent of each other.** The records of a log have the files and commands that
its lines have alone. Lines that say nothing on their own may come and go without a trace in the
records. Where one log follows another one, only directories can differ from those of the two logs,
and what is compiled in one line has no influence on the directory of any other. -/
theorem lines_independent :
    (∀ log, (records log).map Record.compilation =
      (lines log).flatMap fun line => (recordsAlone line).map Record.compilation) ∧
    (∀ log edited, Relation.EqvGen AddsIdleLine log edited → records log = records edited) ∧
    (∀ a b, (records (a ++ '\n' :: b)).map Record.compilation =
      (records a).map Record.compilation ++ (records b).map Record.compilation) ∧
    ∀ log edited, List.Forall₂ Line.SameEffect (said log) (said edited) →
      (records log).map Record.directory = (records edited).map Record.directory :=
  ⟨compilations_records, fun _ _ hedited => records_eq_of_eqvGen_idle hedited,
    compilations_append_lineFeed, fun _ _ hsame => directories_of_sameEffect hsame {}⟩

/-- A quote that is never closed stays in its line, whether the line runs a compilation or not. -/
theorem open_quotes_keep_to_their_lines :
    let log := "echo x gcc -c a.c\"\ngcc -c b.c".toList
    let longer := "echo x gcc -c a.c\"\nmkdir \"d\ngcc -c b.c".toList
    AddsIdleLine log longer ∧
      records longer = [⟨fallbackDirectory, "a.c", "echo x gcc -c a.c\""⟩,
        ⟨fallbackDirectory, "b.c", "gcc -c b.c"⟩] := by
  intro log longer
  have hadds : AddsIdleLine log longer :=
    ⟨["echo x gcc -c a.c\"".toList], "mkdir \"d".toList, ["gcc -c b.c".toList],
      isIdle_iff.2 (by decide), by decide, by decide⟩
  refine ⟨hadds, ?_⟩
  rw [← lines_independent.2.1 log longer (.rel _ _ hadds)]
  decide

end BuildLog

end CompileCommands
