import CompileCommands.Announcement
import CompileCommands.Command.Compilation

/-!
# The lines of a build log

What a line of a build log says does not depend on the lines around it. It announces a directory,
or it runs a compilation, or it says nothing of interest. Blank characters around the line do not
matter, and an announcement is never taken for a compilation.

## Main definitions

* `BuildLog.Line`: what a line says.
* `BuildLog.Line.ofText`: reading a line.
-/

namespace CompileCommands.BuildLog

open Text

/-- What a line of a build log says. -/
inductive Line where
  /-- The build tool enters or leaves a directory. -/
  | announcement (said : Announcement)
  /-- A compiler compiles a source file. -/
  | compilation (compiled : Compilation)
  /-- Nothing of interest. -/
  | other
  deriving DecidableEq, Repr

/-- What a line without blank characters at its ends says. -/
def Line.ofTrimmed (line : List Char) : Line :=
  match Announcement.ofLine? line with
  | some said => .announcement said
  | none =>
    match Compilation.ofLine? line with
    | some compiled => .compilation compiled
    | none => .other

/-- What a line says. -/
def Line.ofText (line : List Char) : Line :=
  Line.ofTrimmed (trim line)

end CompileCommands.BuildLog
