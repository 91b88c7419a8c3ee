import CompileCommands.Config.Settings
import CompileCommands.Log.Filter
import CompileCommands.Log.Quoted
import CompileCommands.Program.Identity

/-!
# Log events

A run logs its settings when it starts, how many records it finds in each build log, and where it
writes the database. Each event has a level and a target, and is one line of the log unless a text
in it breaks the line. The time in front of each line of the log and the colours that its parts have
on a terminal are left out: they are not the program's own, and nothing depends on them.

## Main definitions

* `Event`: what a run logs.
* `Event.line`: an event as a line of the log.
* `Event.isShownBy`: whether a filter shows an event.
-/

namespace CompileCommands

/-- What a run logs. -/
inductive Event where
  /-- The run starts with these settings. -/
  | starting (settings : Settings)
  /-- A build log, given by its number, holds so many records. -/
  | parsed (input records : Nat)
  /-- A database with so many records has been written. -/
  | wrote (output : Destination) (records : Nat)
  deriving DecidableEq, Repr

namespace Event

/-- How much an event matters. -/
def level : Event → Level
  | .starting _ => .debug
  | .parsed .. => .debug
  | .wrote .. => .info

/-- The part of the program that an event comes from. -/
def target : Event → String
  | .parsed .. => Program.name ++ "::util"
  | _ => Program.name

/-- A destination as a value. -/
def showDestination : Destination → String
  | .stdout => "Stdout"
  | .file path => "File(" ++ Log.quote path ++ ")"

/-- Settings as a value. -/
def showSettings (settings : Settings) : String :=
  "Settings \x7b output: " ++ showDestination settings.output ++ ", log_level: " ++
    Log.quote settings.logLevel ++ " \x7d"

/-- What an event says in words. -/
def message : Event → String
  | .starting _ => "starting"
  | .parsed .. => "parsed build output"
  | .wrote output _ => "wrote compilation database to " ++ Log.clean output.display

/-- The values that an event shows behind its message, under their names. -/
def values : Event → List (String × String)
  | .starting settings =>
    [("version", Log.quote Program.version), ("settings", showSettings settings)]
  | .parsed input records => [("input", toString input), ("records", toString records)]
  | .wrote _ records => [("records", toString records)]

/-- The names of the values of an event, among which a filter counts the message. -/
def valueNames (event : Event) : List String :=
  "message" :: event.values.map Prod.fst

/-- A value behind a message. -/
def showValue (value : String × String) : String :=
  " " ++ value.1 ++ "=" ++ value.2

/-- An event as a line of the log, from its level on. The time that stands in front is left out, and
so are the control sequences that colour the level, the message and the names of the values. -/
def line (event : Event) : String :=
  event.level.display ++ " " ++ event.message ++ String.join (event.values.map showValue)

/-- A filter shows an event. -/
def isShownBy (event : Event) (filter : Filter) : Bool :=
  filter.shows event.target event.valueNames event.level

end Event

end CompileCommands
