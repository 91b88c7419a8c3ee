import CompileCommands.Json.Value
import CompileCommands.Record

/-!
# Reading a compilation database

A compilation database is read from a JSON array. A record in it is an object that gives the
directory, the file and the command once each, in any order and among any other members, or an
array of exactly these three texts. Reading is all or nothing: one element that is no record spoils
the whole database.

## Main definitions

* `Record.ofValue?`: the record that a JSON value is.
* `Record.loadAll?`: the records of a database.
-/

namespace CompileCommands

open Json (Piece Value)

namespace Record

/-- The text that a JSON value is. -/
def textOf? : Value → Option String
  | .text pieces => (Json.decode? pieces).map String.ofList
  | _ => none

/-- The text of the member with the given key, which must be given exactly once. -/
def member? (key : String) (members : List (List Char × Value)) : Option String :=
  match members.filter fun (name, _) => name = key.toList with
  | [(_, value)] => textOf? value
  | _ => none

/-- The members of an object, with their keys as texts. -/
def named? (members : List (List Piece × Value)) : Option (List (List Char × Value)) :=
  members.mapM fun (pieces, value) => (Json.decode? pieces).map (·, value)

/-- The record that a JSON value is. -/
def ofValue? : Value → Option Record
  | .object members => do
    let members ← named? members
    let directory ← member? "directory" members
    let file ← member? "file" members
    let command ← member? "command" members
    some ⟨directory, file, command⟩
  | .array [directory, file, command] => do
    let directory ← textOf? directory
    let file ← textOf? file
    let command ← textOf? command
    some ⟨directory, file, command⟩
  | _ => none

/-- The records of a database that is given as a JSON text. -/
def loadAll? (text : String) : Option (List Record) :=
  match Json.parse? text.toList with
  | some (.array items) => items.mapM ofValue?
  | _ => none

end Record

end CompileCommands
