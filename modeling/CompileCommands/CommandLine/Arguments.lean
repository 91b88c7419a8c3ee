import CompileCommands.Text.Start

/-!
# Command line arguments

The arguments of the program are options, each with a short and a long spelling, and at most one
output. The value of an option may stand in the same argument or in the next one:

    -l debug    -ldebug    -l=debug    --log-level debug    --log-level=debug

Arguments are understood from left to right. The first one that asks for help or for the version
ends the reading, and so does the first one that cannot be understood. Behind `--` every argument
is an output, whatever it looks like; a lone hyphen is one everywhere.

## Main definitions

* `Options`: what a run is asked to do.
* `UsageError`: why the arguments cannot be understood.
* `Request`: what the arguments ask for.
* `Arguments.step`: understanding one more argument.
* `Request.ofArguments`: understanding all of them.
-/

namespace CompileCommands

open Text (divide)

/-- What a run is asked to do. -/
structure Options where
  /-- Where the database goes. -/
  output? : Option String := none
  /-- The files with the build logs. -/
  inputs : List String := []
  /-- The configuration file. -/
  config? : Option String := none
  /-- The level of the log. -/
  logLevel? : Option String := none
  deriving DecidableEq, Repr

/-- An option that takes a value. -/
inductive ValueOption where
  | input
  | config
  | logLevel
  deriving DecidableEq, Repr

namespace ValueOption

/-- The long spelling of an option, without its hyphens. -/
def long : ValueOption → String
  | .input => "input"
  | .config => "config"
  | .logLevel => "log-level"

/-- The short spelling of an option, without its hyphen. -/
def short : ValueOption → Char
  | .input => 'i'
  | .config => 'c'
  | .logLevel => 'l'

/-- The options that take a value. -/
def all : List ValueOption :=
  [.input, .config, .logLevel]

end ValueOption

/-- Why the arguments cannot be understood. -/
inductive UsageError where
  /-- There is no option of this spelling. -/
  | unknownOption (argument : String)
  /-- The option is given without a value. -/
  | missingValue (option : ValueOption)
  /-- The option is given with an empty path. -/
  | emptyValue (option : ValueOption)
  /-- The option takes no value and is given one. -/
  | unexpectedValue (argument : String)
  /-- The option is given twice. -/
  | repeated (option : ValueOption)
  /-- There is more than one output. -/
  | extraOutput (argument : String)
  deriving DecidableEq, Repr

/-- What the arguments ask for. -/
inductive Request where
  /-- To write a database. -/
  | run (options : Options)
  /-- To print the short help. -/
  | shortHelp
  /-- To print the long help. -/
  | longHelp
  /-- To print the version. -/
  | version
  /-- Nothing that can be understood. -/
  | misuse (cause : UsageError)
  deriving DecidableEq, Repr

/-- How far the arguments have been understood. -/
structure Arguments where
  /-- What the arguments so far ask for. -/
  options : Options := {}
  /-- The option whose value must be the next argument. -/
  pending? : Option ValueOption := none
  /-- Every further argument is an output. -/
  outputsOnly : Bool := false
  deriving DecidableEq, Repr

namespace Arguments

/-- The options with a value for one of them. -/
def setValue (options : Options) (option : ValueOption) (value : String) :
    Except Request Options :=
  match option with
  | .input =>
    if value = "" then .error (.misuse (.emptyValue option))
    else .ok { options with inputs := options.inputs ++ [value] }
  | .config =>
    if options.config?.isSome then .error (.misuse (.repeated option))
    else if value = "" then .error (.misuse (.emptyValue option))
    else .ok { options with config? := some value }
  | .logLevel =>
    if options.logLevel?.isSome then .error (.misuse (.repeated option))
    else .ok { options with logLevel? := some value }

/-- The arguments with the value of an option. -/
def give (arguments : Arguments) (option : ValueOption) (value : String) :
    Except Request Arguments := do
  let options ← setValue arguments.options option value
  .ok { arguments with options, pending? := none }

/-- The arguments with an output. -/
def giveOutput (arguments : Arguments) (output : String) : Except Request Arguments :=
  if arguments.options.output?.isSome then .error (.misuse (.extraOutput output))
  else .ok { arguments with options := { arguments.options with output? := some output } }

/-- An argument that is no value of the option before it: one that begins with a hyphen and goes
on. -/
def isOptionLike (argument : List Char) : Bool :=
  match argument with
  | '-' :: _ :: _ => true
  | _ => false

/-- The value behind a short spelling in the same argument, without the equals sign that may
precede it. -/
def attached : List Char → String
  | '=' :: value => String.ofList value
  | value => String.ofList value

/-- Understanding a short spelling and what follows it in the same argument. -/
def stepShort (arguments : Arguments) (argument : String) (letter : Char) (rest : List Char) :
    Except Request Arguments :=
  if letter = 'h' then .error .shortHelp
  else if letter = 'V' then .error .version
  else
    match ValueOption.all.find? (·.short = letter), rest with
    | none, _ => .error (.misuse (.unknownOption argument))
    | some option, [] => .ok { arguments with pending? := some option }
    | some option, rest => arguments.give option (attached rest)

/-- The name in a long spelling, and the value behind its equals sign if there is one. -/
def splitLong (text : List Char) : String × Option String :=
  let (name, value?) := divide '=' text
  (String.ofList name, value?.map String.ofList)

/-- Understanding a long spelling. -/
def stepLong (arguments : Arguments) (argument : String) (text : List Char) :
    Except Request Arguments :=
  let (name, value?) := splitLong text
  if name = "help" ∨ name = "version" then
    match value? with
    | some _ => .error (.misuse (.unexpectedValue argument))
    | none => .error (if name = "help" then .longHelp else .version)
  else
    match ValueOption.all.find? (·.long = name), value? with
    | none, _ => .error (.misuse (.unknownOption argument))
    | some option, none => .ok { arguments with pending? := some option }
    | some option, some value => arguments.give option value

/-- Understanding an argument that is no value of the option before it. -/
def stepPlain (arguments : Arguments) (argument : String) : Except Request Arguments :=
  if arguments.outputsOnly then arguments.giveOutput argument
  else
    match argument.toList with
    | ['-', '-'] => .ok { arguments with outputsOnly := true }
    | '-' :: '-' :: text => arguments.stepLong argument text
    | '-' :: letter :: rest => arguments.stepShort argument letter rest
    | _ => arguments.giveOutput argument

/-- Understanding one more argument. -/
def step (arguments : Arguments) (argument : String) : Except Request Arguments :=
  match arguments.pending? with
  | none => arguments.stepPlain argument
  | some option =>
    if isOptionLike argument.toList then .error (.misuse (.missingValue option))
    else arguments.give option argument

/-- What the arguments ask for once all of them have been understood. -/
def finish (arguments : Arguments) : Request :=
  match arguments.pending? with
  | some option => .misuse (.missingValue option)
  | none => .run arguments.options

end Arguments

/-- What a list of arguments asks for. -/
def Request.ofArguments (arguments : List String) : Request :=
  match arguments.foldlM Arguments.step {} with
  | .ok understood => understood.finish
  | .error request => request

end CompileCommands
