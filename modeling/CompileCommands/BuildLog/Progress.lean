import CompileCommands.BuildLog.Line
import CompileCommands.DirectoryStack
import CompileCommands.Record
import CompileCommands.Text.Lines

/-!
# Going through a build log

A build log is gone through line by line. Announcements change the directories in effect, and a
compilation yields a record with the directory in effect. A compilation for which no directory is
in effect enters a placeholder, which then encloses the directories announced later.

A log that comes as bytes is gone through in the same way, each line being read as UTF-8 on its
own. A line that is not UTF-8 ends the reading: its records are given up, and the directories stay
as the lines before it left them.

## Main definitions

* `fallbackDirectory`: the placeholder.
* `DirectoryStack.after`, `DirectoryStack.record?`: what a line does to the directories, and the
  record it yields.
* `BuildLog.Progress`: the directories in effect and the records found so far.
* `BuildLog.run`: the progress through a list of lines.
* `BuildLog.records`: the records of a whole log.
* `BuildLog.readBytes`: reading a log that comes as bytes.

## Main results

* `BuildLog.directories_run`, `BuildLog.records_run_cons`: the progress line by line.
* `BuildLog.directories_run_append`, `BuildLog.records_run_append`: a log may be gone through in
  parts.
-/

namespace CompileCommands

open Text

/-- The directory of compilations for which no directory has been announced. -/
def fallbackDirectory : String :=
  "/path/to/your/project/"

namespace DirectoryStack

open BuildLog (Line)

/-- The directories in effect after a line. -/
def after (dirs : DirectoryStack) : Line → DirectoryStack
  | .announcement said => dirs.apply said
  | .compilation _ => dirs.orEnter fallbackDirectory
  | .other => dirs

/-- The record that a line yields. -/
def record? (dirs : DirectoryStack) : Line → Option Record
  | .compilation compiled =>
    some ⟨(dirs.orEnter fallbackDirectory).name, compiled.file, compiled.command⟩
  | _ => none

end DirectoryStack

namespace BuildLog

/-- How far a build log has been gone through. -/
structure Progress where
  /-- The directories in effect. -/
  directories : DirectoryStack
  /-- The records found so far. -/
  records : Array Record := #[]

/-- The progress after one more line. -/
def Progress.line (progress : Progress) (line : Line) : Progress where
  directories := progress.directories.after line
  records :=
    match progress.directories.record? line with
    | some record => progress.records.push record
    | none => progress.records

/-- The progress through a list of lines, from given directories. -/
def run (dirs : DirectoryStack) (lines : List Line) : Progress :=
  lines.foldl Progress.line { directories := dirs }

/-- The records of a whole build log. -/
def records (log : List Char) : List Record :=
  (run {} ((lines log).map Line.ofText)).records.toList

/-- What has been read from a log that came as bytes. -/
structure Reading where
  /-- The directories in effect. -/
  directories : DirectoryStack
  /-- The records, unless some line was not UTF-8. -/
  records? : Option (List Record)
  deriving DecidableEq, Repr

/-- Reading further lines of bytes, given the progress through the lines before. -/
def readLines (progress : Progress) : List (List UInt8) → Reading
  | [] => ⟨progress.directories, some progress.records.toList⟩
  | bytes :: rest =>
    match decodeUtf8? bytes with
    | some line => readLines (progress.line (Line.ofText (withoutReturns line))) rest
    | none => ⟨progress.directories, none⟩

/-- Reading a log that comes as bytes, from given directories. -/
def readBytes (dirs : DirectoryStack) (bytes : List UInt8) : Reading :=
  readLines { directories := dirs } (byteLines bytes)

/-! ### The progress line by line -/

private theorem directories_foldl (progress : Progress) (lines : List Line) :
    (lines.foldl Progress.line progress).directories =
      lines.foldl DirectoryStack.after progress.directories := by
  induction lines generalizing progress with
  | nil => rfl
  | cons line lines ih => simp [ih, Progress.line]

private theorem records_line (progress : Progress) (line : Line) :
    (progress.line line).records.toList =
      progress.records.toList ++ (progress.directories.record? line).toList := by
  unfold Progress.line
  cases h : progress.directories.record? line <;> simp

private theorem records_foldl (progress : Progress) (lines : List Line) :
    (lines.foldl Progress.line progress).records.toList =
      progress.records.toList ++ (run progress.directories lines).records.toList := by
  induction lines generalizing progress with
  | nil => simp [run]
  | cons line lines ih =>
    have hrun : (run progress.directories (line :: lines)).records.toList =
        (progress.directories.record? line).toList ++
          (run (progress.directories.after line) lines).records.toList := by
      rw [run, List.foldl_cons, ih, records_line]
      simp [Progress.line]
    rw [List.foldl_cons, ih, records_line, hrun, List.append_assoc]
    rfl

/-- The directories after a list of lines are those after its lines one by one. -/
theorem directories_run (dirs : DirectoryStack) (lines : List Line) :
    (run dirs lines).directories = lines.foldl DirectoryStack.after dirs :=
  directories_foldl _ lines

@[simp] theorem records_run_nil (dirs : DirectoryStack) : (run dirs []).records.toList = [] := rfl

/-- The records of a list of lines are the record of its first line and those of the others. -/
theorem records_run_cons (dirs : DirectoryStack) (line : Line) (lines : List Line) :
    (run dirs (line :: lines)).records.toList =
      (dirs.record? line).toList ++ (run (dirs.after line) lines).records.toList := by
  rw [run, List.foldl_cons, records_foldl, records_line]
  simp [Progress.line]

/-- The directories after two lists of lines in a row. -/
theorem directories_run_append (dirs : DirectoryStack) (first second : List Line) :
    (run dirs (first ++ second)).directories =
      (run (run dirs first).directories second).directories := by
  simp [directories_run]

/-- The records of two lists of lines in a row. -/
theorem records_run_append (dirs : DirectoryStack) (first second : List Line) :
    (run dirs (first ++ second)).records.toList =
      (run dirs first).records.toList ++
        (run (run dirs first).directories second).records.toList := by
  rw [run, List.foldl_append, records_foldl]
  rfl

end BuildLog

end CompileCommands
