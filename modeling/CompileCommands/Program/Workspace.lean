import CompileCommands.Destination
import CompileCommands.Files.System
import CompileCommands.Program.Host
import CompileCommands.Text.Lines

/-!
# Workspaces

A workspace is a host that is a value: a tree of files, the content of standard input, the
variables of the environment, and what has been written to the two output streams. A run of the
program in a workspace is a function from the workspace before to the workspace after.

Standard output may take a part only of what is written to it: a pipe whose reader has gone takes no
more, and neither does a full disk. What it takes and why it refuses the rest is part of the
workspace. Standard error takes everything.

## Main definitions

* `Outlet`: how much standard output takes.
* `Workspace`: the value.
* `Workspace.device?`: the device that a path leads to.
* `Workspace.send`, `Workspace.store`: what becomes of bytes that are written to standard output or
  to a path.
* `Workspace.errorLines`: what has been reported, line by line.
-/

namespace CompileCommands

/-- How much standard output takes. -/
structure Outlet where
  /-- How many bytes are taken in all, if there is a limit. -/
  limit? : Option Nat := none
  /-- Why anything beyond the limit is refused. -/
  refusal : FileError := .other "Broken pipe (os error 32)"
  deriving DecidableEq, Repr

/-- What is seen on standard error of what is written to a device. -/
def Device.echo (bytes : List UInt8) : Device → String
  | .errors => String.ofList ((Text.decodeUtf8? bytes).getD [])
  | .null | .input | .output => ""

/-- The surroundings of a run, as a value. -/
structure Workspace where
  /-- The files, with the directory that the program runs in. -/
  files : FileTree := {}
  /-- The files that are devices. -/
  devices : List (Location × Device) := []
  /-- The content of standard input. -/
  input : List UInt8 := []
  /-- The variables of the environment with their values. -/
  environment : List (String × String) := []
  /-- How much standard output takes. -/
  outlet : Outlet := {}
  /-- What the readers of arguments and of configuration files have to say. -/
  wording : Wording := {}
  /-- What has been written to standard output. -/
  output : List UInt8 := []
  /-- What has been written to standard error. -/
  errors : String := ""

namespace Workspace

/-! ### Files and devices -/

/-- The device that a path leads to, if it leads to one. -/
def device? (workspace : Workspace) (path : String) : Option Device :=
  (workspace.files.location? path).bind fun location => workspace.devices.lookup location

/-- What becomes of bytes that are written to standard output. What it takes of them is there
afterwards, even if it refuses the rest. -/
def send (workspace : Workspace) (bytes : List UInt8) : Except FileError Unit × Workspace :=
  match workspace.outlet.limit? with
  | none => (.ok (), { workspace with output := workspace.output ++ bytes })
  | some limit =>
    let room := limit - workspace.output.length
    (if bytes.length ≤ room then .ok () else .error workspace.outlet.refusal,
      { workspace with output := workspace.output ++ bytes.take room })

/-- What becomes of bytes that are written to a device. -/
def sendTo (workspace : Workspace) (bytes : List UInt8) :
    (device : Device) → Except FileError Unit × Workspace
  | .output => workspace.send bytes
  | device => (.ok (), { workspace with errors := workspace.errors ++ device.echo bytes })

/-- What becomes of bytes that are to be the content of the file of a path. If the path leads to a
device, the file stays as it is, and so it does if it cannot be written. -/
def store (workspace : Workspace) (path : String) (bytes : List UInt8) :
    Except FileError Unit × Workspace :=
  match workspace.files.write path bytes with
  | .error cause => (.error cause, workspace)
  | .ok files =>
    match workspace.device? path with
    | none => (.ok (), { workspace with files })
    | some device => workspace.sendTo bytes device

/-! ### The operations of a host -/

/-- Reading a file. -/
def read (path : String) : StateM Workspace (Except FileError (List UInt8)) := do
  return (← get).files.read path

/-- Writing a file. -/
def write (path : String) (content : List UInt8) : StateM Workspace (Except FileError Unit) :=
  modifyGet fun workspace => workspace.store path content

/-- Reading standard input. -/
def readInput : StateM Workspace (Except FileError (List UInt8)) := do
  return .ok (← get).input

/-- Reading the environment. -/
def getVariable (name : String) : StateM Workspace (Option String) := do
  return (← get).environment.lookup name

/-- Writing to standard output. -/
def print (text : String) : StateM Workspace (Except FileError Unit) :=
  modifyGet fun workspace => workspace.send text.toUTF8.data.toList

/-- Writing to standard error. -/
def report (text : String) : StateM Workspace Unit :=
  modify fun workspace => { workspace with errors := workspace.errors ++ text ++ "\n" }

/-- Asking for the words of the readers. -/
def getWording : StateM Workspace Wording := do
  return (← get).wording

instance : Host (StateM Workspace) where
  read := read
  write := write
  readInput := readInput
  getVariable := getVariable
  print := print
  report := report
  wording := getWording

/-! ### What has been reported -/

/-- A line without the carriage return that it may end in. -/
def withoutReturn (line : List Char) : List Char :=
  if line.getLast? = some '\r' then line.dropLast else line

/-- The lines that have been written to standard error. A line is closed by a line feed, with or
without a carriage return in front of it. -/
def errorLines (workspace : Workspace) : List String :=
  let lines := workspace.errors.toList.splitOn '\n'
  let unclosed := (lines.getLast?.filter (· ≠ [])).toList
  (lines.dropLast.map withoutReturn ++ unclosed).map String.ofList

end Workspace

end CompileCommands
