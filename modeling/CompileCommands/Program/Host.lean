import CompileCommands.CommandLine.Arguments
import CompileCommands.Failure

/-!
# Hosts

What the program needs from its surroundings: files, standard input, the environment, and the two
streams that it writes to. The program is the same for every host. One host is the system that it
runs on; another, in `CompileCommands.Program.Workspace`, is a value that is passed along, in which
the whole effect of a run can be looked at.

The readers of arguments and of configuration files are not the program's own. It hands on what they
have to say about a text that they refuse, and nothing in a run depends on how they put it.

## Main definitions

* `Wording`: what the readers have to say.
* `Host`: the operations of a host.
-/

namespace CompileCommands

/-- The words in which the readers of arguments and of configuration files refuse a text. -/
structure Wording where
  /-- Why arguments cannot be understood, and how they should be given. -/
  misuse : UsageError → String := fun _ => ""
  /-- Why a text is no configuration. -/
  malformed : List Char → String := fun _ => ""

/-- What the program needs from its surroundings. -/
class Host (m : Type → Type) where
  /-- The content of the file with the given path. -/
  read : (path : String) → m (Except FileError (List UInt8))
  /-- Gives the file with the given path the given content. -/
  write : (path : String) → (content : List UInt8) → m (Except FileError Unit)
  /-- Everything on standard input. -/
  readInput : m (Except FileError (List UInt8))
  /-- The value of an environment variable, if it is set. -/
  getVariable : (name : String) → m (Option String)
  /-- Writes a text to standard output, which may take a part of it only. -/
  print : (text : String) → m (Except FileError Unit)
  /-- Writes a text and a line feed to standard error. -/
  report : (text : String) → m Unit
  /-- What the readers have to say. -/
  wording : m Wording

end CompileCommands
