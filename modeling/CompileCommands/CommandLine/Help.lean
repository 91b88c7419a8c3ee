/-!
# Help texts

The help texts of the program: a short one with a line for each option, and a long one that says
more and gives each description lines of its own.

## Main definitions

* `Help.short`, `Help.long`: the texts.
-/

namespace CompileCommands.Help

/-- The lines of the short help. -/
def shortLines : List String :=
  ["Generate a clang compilation database from make or ninja output",
    "",
    "Usage: cdg [OPTIONS] [OUTPUT]",
    "",
    "Arguments:",
    "  [OUTPUT]  Where to write the database, \"-\" for stdout " ++
      "[default: debug/compile_commands.json]",
    "",
    "Options:",
    "  -i, --input <FILE>       Read build output from a file instead of stdin (repeatable)",
    "  -c, --config <FILE>      Config file [default: ./cdg.toml if present]",
    "  -l, --log-level <LEVEL>  Log level: trace, debug, info, warn or error",
    "  -h, --help               Print help (see more with '--help')",
    "  -V, --version            Print version"]

/-- The lines of the long help. -/
def longLines : List String :=
  ["Generate a clang compilation database from make or ninja output.",
    "",
    "Build output is read from stdin unless input files are given, e.g. `make -nw | cdg` or " ++
      "`cdg -i build.log compile_commands.json`.",
    "",
    "Usage: cdg [OPTIONS] [OUTPUT]",
    "",
    "Arguments:",
    "  [OUTPUT]",
    "          Where to write the database, \"-\" for stdout " ++
      "[default: debug/compile_commands.json]",
    "",
    "Options:",
    "  -i, --input <FILE>",
    "          Read build output from a file instead of stdin (repeatable)",
    "",
    "  -c, --config <FILE>",
    "          Config file [default: ./cdg.toml if present]",
    "",
    "  -l, --log-level <LEVEL>",
    "          Log level: trace, debug, info, warn or error",
    "",
    "  -h, --help",
    "          Print help (see a summary with '-h')",
    "",
    "  -V, --version",
    "          Print version"]

/-- Lines, each closed by a line feed. -/
def unlines (lines : List String) : String :=
  String.join (lines.map (· ++ "\n"))

theorem unlines_append (lines more : List String) :
    unlines (lines ++ more) = unlines lines ++ unlines more := by
  rw [unlines, List.map_append, String.join_append]
  rfl

/-- The short help. -/
def short : String :=
  unlines shortLines

/-- The long help. -/
def long : String :=
  unlines longLines

end CompileCommands.Help
