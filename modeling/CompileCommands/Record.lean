/-!
# Compilation records

A compilation record says how one source file is compiled: the directory the compiler runs in, the
source file, and the command that runs it. The directory and the file are given as the build wrote
them; neither need exist.

## Main definitions

* `Record`: an entry of a compilation database.
-/

namespace CompileCommands

/-- How one source file is compiled. -/
structure Record where
  /-- The directory that the compiler runs in. -/
  directory : String
  /-- The source file, as the command names it. -/
  file : String
  /-- The command that runs the compiler. -/
  command : String
  deriving DecidableEq, Repr

end CompileCommands
