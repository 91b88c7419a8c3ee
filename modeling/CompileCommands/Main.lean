import CompileCommands.Program.Run

/-!
# The command line program

The program on the system that it runs on.

## Main definitions

* `main`: the entry point.
-/

namespace CompileCommands.Program

/-- The number of a system error, which may be given with its sign turned. -/
def errorNumber (code : UInt32) : UInt32 :=
  min code (0 - code)

/-- Why the system could not read or write a file. -/
def causeOf (error : IO.Error) : FileError :=
  match error with
  | .noFileOrDirectory .. => .notFound
  | .inappropriateType _ code _ =>
    match errorNumber code with
    | 20 => .notDirectory
    | 21 => .isDirectory
    | _ => .other (toString error)
  | .invalidArgument _ code _ =>
    match errorNumber code with
    | 22 => .nullInPath
    | 36 => .nameTooLong
    | _ => .other (toString error)
  | .resourceVanished code _ =>
    if errorNumber code = 32 then .other "Broken pipe (os error 32)" else .other (toString error)
  | .resourceExhausted _ code _ =>
    if errorNumber code = 28 then .other "No space left on device (os error 28)"
    else .other (toString error)
  | _ => .other (toString error)

/-- The outcome of an action on a file. -/
def attempt {α : Type} (action : IO α) : IO (Except FileError α) := do
  match ← action.toBaseIO with
  | .ok value => return .ok value
  | .error error => return .error (causeOf error)

/-- The words in which this host reports a misuse of the command line. -/
def explainMisuse : UsageError → String
  | .unknownOption argument => "unexpected argument '" ++ argument ++ "' found"
  | .missingValue option => "a value is required for '--" ++ option.long ++ "'"
  | .emptyValue option => "the value of '--" ++ option.long ++ "' must not be empty"
  | .unexpectedValue argument => "unexpected value in '" ++ argument ++ "'"
  | .repeated option => "the option '--" ++ option.long ++ "' cannot be used multiple times"
  | .extraOutput argument => "unexpected argument '" ++ argument ++ "' found"

instance : Host IO where
  read path := attempt do return (← IO.FS.readBinFile path).data.toList
  write path content := attempt (IO.FS.writeBinFile path content.toByteArray)
  readInput := attempt do return (← (← IO.getStdin).readBinToEnd).data.toList
  getVariable name := IO.getEnv name
  print text := attempt do
    IO.print text
    (← IO.getStdout).flush
  report text := IO.eprintln text
  wording := return { misuse := explainMisuse, malformed := fun _ => "invalid configuration" }

end CompileCommands.Program

/-- Runs the program with the given arguments and gives its exit code. -/
def main (arguments : List String) : IO UInt32 :=
  CompileCommands.Program.run arguments
