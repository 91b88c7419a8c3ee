import CompileCommands.Files.Tree

/-!
# The tree of a system

A system has files and directories of its own around those that a run of the program is about. This
file gives a tree with the directories that every system has below its root. The working directory
is one below `tmp` without a name, so that it is empty and no path leads into it from above.

A system also has devices, which keep nothing of what is written to them. Here these are the null
device and those that stand for standard input, standard output and standard error, the latter under
each of their names. In the tree a device is a file, to which a path may lead and which may be read;
a list of its own says which files are devices. Standard input is taken to come from a file, so that
its device yields all of it whenever it is read, while the two streams that are written to lead to a
pipe or to a terminal. There are no other devices, and no links and permissions.

## Main definitions

* `Device`: the devices.
* `Device.ofSystem`: the devices of a system, and where they stand.
* `FileTree.system`: the tree.
-/

namespace CompileCommands

/-- A device. It keeps nothing of what is written to it. -/
inductive Device where
  /-- What is written here is seen nowhere. -/
  | null
  /-- What is written here goes back to where standard input comes from, and is seen nowhere. -/
  | input
  /-- What is written here is seen on standard output. -/
  | output
  /-- What is written here is seen on standard error, behind what is there already. -/
  | errors
  deriving DecidableEq, Repr

namespace Device

/-- The locations of a stream, given the name of its device and its number. -/
def locationsOf (name number : String) : List Location :=
  [["dev", name], ["dev", "fd", number], ["proc", "self", "fd", number]]

/-- The devices of a system, and where they stand. -/
def ofSystem : List (Location × Device) :=
  (["dev", "null"], .null) ::
    ((locationsOf "stdin" "0").map (·, .input) ++ (locationsOf "stdout" "1").map (·, .output) ++
      (locationsOf "stderr" "2").map (·, .errors))

/-- What is read from a device, given what is on standard input. -/
def content (input : List UInt8) : Device → List UInt8
  | .input => input
  | .null | .output | .errors => []

end Device

namespace FileTree

/-- The directories of a system. -/
def systemDirectories : List Location :=
  ["bin", "boot", "dev", "etc", "home", "lib", "lib64", "media", "mnt", "opt", "proc", "root",
    "run", "sbin", "srv", "sys", "tmp", "usr", "var"].map (fun name => [name]) ++
    [["dev", "fd"], ["proc", "self"], ["proc", "self", "fd"]]

/-- A system on whose standard input the given bytes are, with an empty working directory. -/
def system (input : List UInt8) : FileTree where
  entries :=
    Device.ofSystem.map (fun (location, device) => (location, .file (device.content input))) ++
      systemDirectories.map (·, .directory)
  workingDirectory := ["tmp", ""]

end FileTree

end CompileCommands
