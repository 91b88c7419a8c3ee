/-!
# Name and version

The name and the version under which the program presents itself.

## Main definitions

* `Program.name`, `Program.version`: the name and the version.
-/

namespace CompileCommands.Program

/-- The name of the program. -/
def name : String :=
  "cdg"

/-- The version of the program. -/
def version : String :=
  "0.1.0"

end CompileCommands.Program
