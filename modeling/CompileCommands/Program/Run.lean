import CompileCommands.BuildLog.Merge
import CompileCommands.CommandLine.Arguments
import CompileCommands.CommandLine.Help
import CompileCommands.Log.Event
import CompileCommands.Program.Host

/-!
# Runs of the program

A run understands its arguments, loads the configuration, reads all build logs, goes through them
and writes the database, in this order. The first step that fails ends the run, so that nothing is
written unless everything before has succeeded.

## Main definitions

* `Program.loadConfig`, `Program.readLogs`, `Program.writeDatabase`: the steps.
* `Program.build`: the steps in a row.
* `Program.run`: a whole run, with its exit code.
-/

namespace CompileCommands.Program

open Text

variable {m : Type → Type} [Monad m] [Host m]

/-- The text that bytes are the UTF-8 form of; otherwise the file they come from is at fault. -/
def decode (path : String) (bytes : List UInt8) : ExceptT Failure m (List Char) :=
  match decodeUtf8? bytes with
  | some text => pure text
  | none => throw (.file path .notUtf8)

/-- The text of a file, given what came of reading it. -/
def textOf (path : String) : Except FileError (List UInt8) → ExceptT Failure m (List Char)
  | .ok bytes => decode path bytes
  | .error cause => throw (.file path cause)

/-- The text of a file. -/
def readText (path : String) : ExceptT Failure m (List Char) := do
  let content ← (Host.read path : m _)
  textOf path content

/-! ### The configuration -/

/-- The configuration in the text of a file. -/
def parseConfig (path : String) (text : List Char) : ExceptT Failure m Config :=
  match Config.parse? text with
  | some config => pure config
  | none => do
    let wording ← (Host.wording : m _)
    throw (.invalidConfig path (wording.malformed text))

/-- The configuration in a file that was asked for. -/
def loadConfigFrom (path : String) : ExceptT Failure m Config := do
  match ← (Host.read path : m _) with
  | .error .notFound | .error .notDirectory | .error .nameTooLong | .error .nullInPath =>
    throw (.configNotFound path)
  | content => textOf path content >>= parseConfig path

/-- The configuration in the default file, if there is such a file. -/
def loadDefaultConfig : ExceptT Failure m Config := do
  match ← (Host.read Config.defaultFile : m _) with
  | .error .notFound | .error .notDirectory | .error .isDirectory => pure {}
  | content => textOf Config.defaultFile content >>= parseConfig Config.defaultFile

/-- The configuration of a run. -/
def loadConfig : (path? : Option String) → ExceptT Failure m Config
  | some path => loadConfigFrom path
  | none => loadDefaultConfig

/-! ### The log -/

/-- The environment variable that holds a log filter. -/
def filterVariable : String :=
  "RUST_LOG"

/-- The log filter of a run: the one in the environment, with the complaints about it reported, or
else the one that shows the messages of the given level and of those that matter more. -/
def chooseFilter (level : Level) : m Filter := do
  match ← (Host.getVariable filterVariable : m _) with
  | some text => do
    (Filter.complaints text).forM Host.report
    return Filter.parse text
  | none => return Filter.upTo Program.name level

/-- Logs an event, if the filter shows it. -/
def log (filter : Filter) (event : Event) : m Unit :=
  if event.isShownBy filter then Host.report event.line else pure ()

/-- Warns about the name of a level that is none. -/
def warnAboutLevel (name : String) : m Unit :=
  match Level.ofName? name with
  | some _ => pure ()
  | none => Host.report (Level.warning name)

/-! ### Build logs and databases -/

/-- The place in messages of what comes from standard input. -/
def inputName : String :=
  "<stdin>"

/-- The build logs in the given files, or on standard input if no file is given. -/
def readLogs : (paths : List String) → ExceptT Failure m (List (List Char))
  | [] => do
    let content ← (Host.readInput : m _)
    return [← textOf inputName content]
  | paths => paths.mapM readText

/-- Writes a text to a destination. -/
def deliver (text : String) : (output : Destination) → m (Except FileError Unit)
  | .stdout => Host.print text
  | .file path => Host.write path text.toUTF8.data.toList

/-- Writes a database to its destination. -/
def writeDatabase (database : Database) (output : Destination) : ExceptT Failure m Unit := do
  match ← (deliver database.print output : m _) with
  | .ok () => pure ()
  | .error cause => throw (.file output.place cause)

/-- Logs how many records each build log holds. -/
def logParts (filter : Filter) (parts : List (List Record)) : m Unit :=
  parts.zipIdx.forM fun (records, input) => log filter (.parsed input records.length)

/-- Makes up a database from build logs and writes it. -/
def buildFrom (filter : Filter) (output : Destination) (logs : List (List Char)) :
    ExceptT Failure m Unit :=
  match BuildLog.recordsByLog? logs with
  | none => throw .emptyInput
  | some parts => do
    (logParts filter parts : m Unit)
    writeDatabase (Database.ofParts parts) output
    (log filter (.wrote output (Database.ofParts parts).size) : m Unit)

/-- The settings of a run. -/
def loadSettings (options : Options) : ExceptT Failure m Settings := do
  let config ← loadConfig options.config?
  let logLevel? ← (Host.getVariable Settings.logLevelVariable : m _)
  return Settings.resolve config options.output? options.logLevel? logLevel?

/-- Does what a run is asked to do. -/
def build (options : Options) : ExceptT Failure m Unit := do
  let settings ← loadSettings options
  (warnAboutLevel settings.logLevel : m Unit)
  let filter ← (chooseFilter (Level.ofText settings.logLevel) : m Filter)
  (log filter (.starting settings) : m Unit)
  let logs ← readLogs options.inputs
  buildFrom filter settings.output logs

/-! ### Whole runs -/

/-- Reports how a run has ended, and gives its exit code. Without any build output the help is
shown, since the program has most likely been started by itself. -/
def conclude : Except Failure Unit → m UInt32
  | .ok () => return 0
  | .error .emptyInput => do
    Host.report Help.long
    return 1
  | .error failure => do
    Host.report ("error " ++ failure.message)
    return 1

/-- Answers with a text on standard output, however much of it is taken there. -/
def answer (text : String) : m UInt32 := do
  let _ ← (Host.print text : m _)
  return 0

/-- Does what the arguments ask for, and gives the exit code. -/
def perform : Request → m UInt32
  | .shortHelp => answer Help.short
  | .longHelp => answer Help.long
  | .version => answer (Program.name ++ " " ++ Program.version ++ "\n")
  | .misuse cause => do
    let wording ← (Host.wording : m _)
    Host.report ("error: " ++ wording.misuse cause)
    return 2
  | .run options => do
    let outcome ← (build options).run
    conclude outcome

/-- A run of the program with the given arguments. -/
def run (arguments : List String) : m UInt32 :=
  perform (Request.ofArguments arguments)

end CompileCommands.Program
