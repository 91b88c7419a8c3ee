import CompileCommands.Json.Quoted
import CompileCommands.Record

/-!
# Writing a compilation database

A compilation database is written as a JSON array of objects, indented by two spaces for each
level, with a line for every bracket and every member. The members of a record are its directory,
its file and its command, in this order. A database without records is a line of its own.

## Main definitions

* `Database`: a list of records.
* `Database.lines`: the lines of a database.
* `Database.print`: a database as a text, each line closed by a line feed.

## Main results

* `Database.length_lines`: a database of `n` records has `5 * n + 2` lines, unless it is empty.
-/

namespace CompileCommands

/-- A compilation database. -/
structure Database where
  /-- The records, in the order in which they are written. -/
  records : List Record
  deriving DecidableEq, Repr

namespace Database

/-- The number of records. -/
def size (database : Database) : Nat :=
  database.records.length

/-- A database without records. -/
def isEmpty (database : Database) : Bool :=
  database.records.isEmpty

/-- A member of a record: its key, a colon and its quoted text. -/
def member (key text : String) : List Char :=
  "    ".toList ++ Json.quote key.toList ++ ": ".toList ++ Json.quote text.toList

/-- The lines of a record, given what follows its closing brace. -/
def recordLines (ending : List Char) (record : Record) : List (List Char) :=
  ["  \x7b".toList,
    member "directory" record.directory ++ [','],
    member "file" record.file ++ [','],
    member "command" record.command,
    "  \x7d".toList ++ ending]

/-- The lines of a sequence of records. A comma follows each but the last. -/
def recordsLines : List Record → List (List Char)
  | [] => []
  | [record] => recordLines [] record
  | record :: records => recordLines [','] record ++ recordsLines records

/-- The lines of a database. -/
def lines (database : Database) : List (List Char) :=
  match database.records with
  | [] => ["[]".toList]
  | records => ["[".toList] ++ recordsLines records ++ ["]".toList]

/-- A database as a text. -/
def print (database : Database) : String :=
  String.ofList (database.lines.flatMap (· ++ ['\n']))

theorem length_recordsLines (records : List Record) :
    (recordsLines records).length = 5 * records.length := by
  fun_induction recordsLines records with
  | case1 => rfl
  | case2 => rfl
  | case3 record records _ ih =>
    simp [recordLines, ih]
    omega

/-- A database of `n` records has `5 * n + 2` lines, unless it is empty. -/
theorem length_lines {database : Database} (h : database.records ≠ []) :
    database.lines.length = 5 * database.size + 2 := by
  unfold lines
  split
  case h_1 heq => exact absurd heq h
  case h_2 => simp [length_recordsLines, size]

end Database

end CompileCommands
