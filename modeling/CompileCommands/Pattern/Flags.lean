import CompileCommands.Text.Blank

/-!
# Flags of patterns

A pattern is a regular expression. Its flags are letters between a question mark and the end of a
group's opening. Those behind a hyphen are turned off, the others on, and none is given twice. Two
of them decide what is a pattern: with the flag `u`, which is on at first, a pattern is about
characters and otherwise about bytes; with the flag `x` blanks stand for nothing, and comments reach
from a number sign to the end of a line.

## Main definitions

* `Pattern.Error`: why a pattern cannot be used.
* `Pattern.Flags`: the flags that decide what is a pattern.
* `Pattern.Flags.change`: the flags after some have been turned on or off.
* `Pattern.Flags.skip`: a text without what stands for nothing at its start.
* `Pattern.Flags.peek?`: the next character that stands for something.

## Main results

* `Pattern.Flags.skip_of_not_verbose`: without the flag `x` everything counts.
-/

namespace CompileCommands.Pattern

open Text

/-- Why a pattern cannot be used. -/
inductive Error where
  /-- It is no pattern. -/
  | malformed
  /-- It asks for the boundary of a word, which takes more than one character to be seen. -/
  | wordBoundary
  deriving DecidableEq, Repr

/-- The words in which a pattern is complained about. -/
def Error.message : Error → String
  | .malformed => "error building NFA"
  | .wordBoundary =>
    "unsupported regex feature for DFAs: cannot build DFAs for regexes with Unicode word " ++
      "boundaries; switch to ASCII word boundaries, or heuristically enable Unicode word " ++
      "boundaries or use a different regex engine"

/-- The flags that decide what is a pattern. -/
structure Flags where
  /-- The pattern is about characters. -/
  unicode : Bool := true
  /-- Blanks and comments stand for nothing. -/
  verbose : Bool := false
  deriving DecidableEq, Repr

namespace Flags

/-- A letter of a flag, or the hyphen. -/
def isLetter (c : Char) : Bool :=
  "imsURux-".toList.contains c

/-- The letters of flags are in order. -/
def isValid (letters : List Char) : Bool :=
  letters.all isLetter && decide letters.Nodup && letters.getLast? != some '-'

/-- What becomes of a flag when the given letters are read. -/
def turn (letters : List Char) (letter : Char) (value : Bool) : Bool :=
  if letters.contains letter then (letters.takeWhile (· ≠ '-')).contains letter else value

/-- The flags after the given letters. -/
def change (flags : Flags) (letters : List Char) : Except Error Flags :=
  if isValid letters then
    .ok ⟨turn letters 'u' flags.unicode, turn letters 'x' flags.verbose⟩
  else .error .malformed

/-- The text behind blanks and comments. -/
def skipComments : (inComment : Bool) → List Char → List Char
  | _, [] => []
  | true, c :: text => skipComments (c != '\n') text
  | false, c :: text =>
    if isBlank c then skipComments false text
    else if c = '#' then skipComments true text
    else c :: text

/-- The text without what stands for nothing at its start. -/
def skip (flags : Flags) (text : List Char) : List Char :=
  if flags.verbose then skipComments false text else text

/-- The next character that stands for something, as far as it can be told without going through
comments: of a comment no more than the number sign and the blanks behind it are passed over. -/
def peek? (flags : Flags) (text : List Char) : Option Char :=
  if flags.verbose then
    match text.dropWhile isBlank with
    | '#' :: comment => (comment.dropWhile isBlank).head?
    | rest => rest.head?
  else text.head?

/-- Without the flag for it, blanks and comments count. -/
theorem skip_of_not_verbose {flags : Flags} (h : flags.verbose = false) (text : List Char) :
    flags.skip text = text := by
  simp [skip, h]

end Flags

end CompileCommands.Pattern
