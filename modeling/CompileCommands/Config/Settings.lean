import CompileCommands.Config.Basic
import CompileCommands.Destination

/-!
# Settings

The settings of a run come from the command line, the environment, the configuration file and the
defaults, in this order. The environment has a say only in the level of the log, and an empty level
there counts as none.

## Main definitions

* `Settings`: where the database goes, and the level of the log.
* `Settings.resolve`: the settings of a run.
-/

namespace CompileCommands

/-- The settings of a run. -/
structure Settings where
  /-- Where the database goes. -/
  output : Destination
  /-- The level of the log, as it was given. -/
  logLevel : String
  deriving DecidableEq, Repr

namespace Settings

/-- Where the database goes by default. -/
def defaultOutput : String :=
  "debug/compile_commands.json"

/-- The level of the log by default. -/
def defaultLogLevel : String :=
  "info"

/-- The environment variable that gives the level of the log. -/
def logLevelVariable : String :=
  "LOG_LEVEL"

/-- The settings of a run, from the configuration file, from the command line and from the
environment. -/
def resolve (config : Config) (output? logLevel? environment? : Option String) : Settings where
  output := .ofText ((output?.or config.output?).getD defaultOutput)
  logLevel :=
    ((logLevel?.or (environment?.filter (· ≠ ""))).or config.logLevel?).getD defaultLogLevel

end Settings

end CompileCommands
