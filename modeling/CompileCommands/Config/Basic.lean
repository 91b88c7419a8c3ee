import CompileCommands.Toml.Document

/-!
# Configuration files

A configuration file gives the destination of the database and the level of the log, each at most
once, and nothing else.

## Main definitions

* `Config`: the settings that a configuration file gives.
* `Config.add?`: a configuration with one more assignment.
* `Config.parse?`: the configuration in a file.
-/

namespace CompileCommands

/-- The settings that a configuration file gives. -/
structure Config where
  /-- Where the database goes. -/
  output? : Option String := none
  /-- The level of the log. -/
  logLevel? : Option String := none
  deriving DecidableEq, Repr

namespace Config

/-- The configuration file that is read when none is asked for. -/
def defaultFile : String :=
  "cdg.toml"

/-- The configuration with one more assignment, to a setting that has not been given before. -/
def add? (config : Config) (assignment : Toml.Assignment) : Option Config :=
  let value := String.ofList assignment.value
  if assignment.key = "output".toList ∧ config.output? = none then
    some { config with output? := some value }
  else if assignment.key = "log-level".toList ∧ config.logLevel? = none then
    some { config with logLevel? := some value }
  else none

/-- The configuration that assignments make up. -/
def ofAssignments? (assignments : List Toml.Assignment) : Option Config :=
  assignments.foldlM add? {}

/-- The configuration in the text of a file. -/
def parse? (text : List Char) : Option Config :=
  Toml.assignments? text >>= ofAssignments?

end Config

end CompileCommands
