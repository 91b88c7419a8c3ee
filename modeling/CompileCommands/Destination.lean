/-!
# Destinations

A compilation database goes to a file or to standard output. A hyphen in place of a path stands for
standard output.

## Main definitions

* `Destination`: where a database goes.
* `Destination.ofText`: the destination that a text names.
* `Destination.place`: the text that names a destination.
* `Destination.display`: a destination in messages.

## Main results

* `Destination.ofText_eq_stdout_iff`: only a hyphen stands for standard output.
* `Destination.ofText_eq_file_iff`: everything else is the path of a file.
* `Destination.place_ofText`: a destination is named by the text that it comes from.
-/

namespace CompileCommands

/-- Where a compilation database goes. -/
inductive Destination where
  /-- Standard output. -/
  | stdout
  /-- The file with the given path. -/
  | file (path : String)
  deriving DecidableEq, Repr

namespace Destination

/-- The text that stands for standard output. -/
def stdoutName : String :=
  "-"

/-- The destination that a text names. -/
def ofText (text : String) : Destination :=
  if text = stdoutName then .stdout else .file text

/-- The text that names a destination. -/
def place : Destination → String
  | .stdout => stdoutName
  | .file path => path

/-- A destination in messages. -/
def display : Destination → String
  | .stdout => "<stdout>"
  | .file path => path

/-- Only a hyphen stands for standard output. -/
theorem ofText_eq_stdout_iff {text : String} : ofText text = .stdout ↔ text = stdoutName := by
  by_cases h : text = stdoutName <;> simp [ofText, h]

/-- A text names a file exactly if it is the path of this file and no hyphen. -/
theorem ofText_eq_file_iff {text path : String} :
    ofText text = .file path ↔ text = path ∧ text ≠ stdoutName := by
  by_cases h : text = stdoutName <;> simp [ofText, h]

/-- A destination is named by the text that it comes from. -/
@[simp] theorem place_ofText (text : String) : (ofText text).place = text := by
  by_cases h : text = stdoutName <;> simp [ofText, place, h]

end Destination

end CompileCommands
