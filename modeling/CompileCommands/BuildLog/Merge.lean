import CompileCommands.BuildLog.Progress
import CompileCommands.Database.Printer

/-!
# Merging build logs

Several build logs make up one compilation database. Each log is gone through on its own, so that
no directory announced in one is in effect in another, and the records keep the order of the logs
and of the lines in them. Logs that are all blank make up no database: most likely the build did
not run.

## Main definitions

* `BuildLog.recordsByLog?`: the records of each log.
* `Database.ofLogs?`: the database that logs make up.

## Main results

* `Database.ofLogs?_eq_none_iff`: no database is made up exactly if all logs are blank.
-/

namespace CompileCommands

open Text

/-- The records of each of several logs, unless all of them are blank. -/
def BuildLog.recordsByLog? (logs : List (List Char)) : Option (List (List Record)) :=
  if logs.all isAllBlank then none else some (logs.map fun log => BuildLog.records (trim log))

/-- The database with the records of each of several logs, in order. -/
def Database.ofParts (parts : List (List Record)) : Database :=
  ⟨parts.flatten⟩

/-- The database that logs make up, unless all of them are blank. -/
def Database.ofLogs? (logs : List (List Char)) : Option Database :=
  (BuildLog.recordsByLog? logs).map Database.ofParts

/-- Logs make up no database exactly if all of them are blank. -/
theorem Database.ofLogs?_eq_none_iff {logs : List (List Char)} :
    Database.ofLogs? logs = none ↔ ∀ log ∈ logs, ∀ c ∈ log, isBlank c = true := by
  simp [ofLogs?, BuildLog.recordsByLog?, isAllBlank]

end CompileCommands
