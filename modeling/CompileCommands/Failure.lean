import CompileCommands.Files.Tree

/-!
# Failures

The ways in which a run of the program fails once its command line has been understood, and the
words in which they are reported.

## Main definitions

* `Failure`: the ways.
* `Failure.message`: the words.
-/

namespace CompileCommands

/-- Why no compilation database has been written. -/
inductive Failure where
  /-- All build logs are blank. -/
  | emptyInput
  /-- A file cannot be read or written. -/
  | file (path : String) (cause : FileError)
  /-- The configuration file that was asked for does not exist. -/
  | configNotFound (path : String)
  /-- The configuration file is malformed, for the reason that its reader gives. -/
  | invalidConfig (path reason : String)
  deriving DecidableEq, Repr

namespace Failure

/-- The words in which a failure is reported. -/
def message : Failure → String
  | .emptyInput => "no build output to parse"
  | .file path cause => path ++ ": " ++ cause.message
  | .configNotFound path => "config file " ++ path ++ " not found"
  | .invalidConfig path reason => path ++ ": " ++ reason

/-- The words of the cause behind a failure, if there is one. -/
def cause? : Failure → Option String
  | .file _ cause => some cause.message
  | .invalidConfig _ reason => some reason
  | _ => none

end Failure

end CompileCommands
