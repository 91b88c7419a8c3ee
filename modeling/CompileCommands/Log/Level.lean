/-!
# Levels of the log

A level says how much a message matters, from traces to errors. It is given by its name in letters
of either size. A name that is none counts as the level for information, and a warning says so.

## Main definitions

* `Level`: the levels.
* `Level.rank`: how many levels matter as much or more.
* `Level.ofName?`, `Level.ofText`: the level with a name.
* `Level.warning`: the warning about a name that is none.
-/

namespace CompileCommands

/-- How much a message matters. -/
inductive Level where
  | trace
  | debug
  | info
  | warn
  | error
  deriving DecidableEq, Repr

namespace Level

/-- The number of levels that matter as much or more. -/
def rank : Level → Nat
  | .error => 1
  | .warn => 2
  | .info => 3
  | .debug => 4
  | .trace => 5

/-- The name of a level in messages. -/
def display : Level → String
  | .trace => "TRACE"
  | .debug => "DEBUG"
  | .info => "INFO"
  | .warn => "WARN"
  | .error => "ERROR"

/-- The names of the levels, in small letters. -/
def names : List (String × Level) :=
  [("trace", .trace), ("debug", .debug), ("info", .info), ("warn", .warn), ("warning", .warn),
    ("error", .error)]

/-- The level with the given name, in letters of either size. -/
def ofName? (name : String) : Option Level :=
  names.lookup (String.ofList (name.toList.map Char.toLower))

/-- The level with the given name. A name that is none counts as the level for information. -/
def ofText (name : String) : Level :=
  (ofName? name).getD .info

/-- The warning about a name that is none. -/
def warning (name : String) : String :=
  "Invalid log level '" ++ name ++
    "', defaulting to INFO. Valid levels: trace, debug, info, warn, error"

end Level

end CompileCommands
