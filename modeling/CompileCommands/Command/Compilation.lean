import CompileCommands.Command.Chaining
import CompileCommands.Command.Compiler
import CompileCommands.Command.Segment
import CompileCommands.Command.SourceName

/-!
# Compilations

A line of build output compiles a source file when it runs a compiler and the command around the
compiler names a source file. The source file is looked for in the whole rest of the line, before
chained commands are cut off.

## Main definitions

* `Compilation`: a source file and the command that compiles it.
* `Compilation.ofLine?`: the compilation that a line runs.
-/

namespace CompileCommands

open Text

/-- A source file and the command that compiles it. -/
structure Compilation where
  /-- The source file, as the command names it. -/
  file : String
  /-- The command that runs the compiler. -/
  command : String
  deriving DecidableEq, Repr

/-- The compilation that a line of build output runs. -/
def Compilation.ofLine? (line : List Char) : Option Compilation := do
  let place ← Compiler.find? line
  let command := segment place
  let file ← SourceName.find? command
  some ⟨String.ofList file, String.ofList (unchain command)⟩

end CompileCommands
