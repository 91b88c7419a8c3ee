import CompileCommands.Text.Cursor

/-!
# The segment of a command line

A line of build output may run several commands. The segment around a place of the line is the
command that the place belongs to.

When the line ends in a double quote from the place on, the command is taken to be quoted, and its
segment begins at the nearest double quote to the left that no backslash escapes. Otherwise the
segment begins after the nearest shell separator to the left, so that a path in front of the place
stays with it. Where the line has no such quote or separator the segment begins with the line. In
either case it runs to the end of the line; `CompileCommands.Command.Chaining` cuts off the
commands that follow.

## Main definitions

* `Segment.isSeparator`: the shell separators.
* `Segment.isQuoted`: whether the line ends in a double quote from the place on.
* `Segment.begin`: the place where the segment begins.
* `segment`: the characters of the segment, without blank characters at its ends.

## Main results

* `Segment.text_begin`: the segment lies in its line.
-/

namespace CompileCommands

open Text

namespace Segment

/-- The characters that separate the words and the commands of a shell. -/
def isSeparator (c : Char) : Bool :=
  c == ' ' || c == '\t' || c == '\n' || c == ';' || c == '&'

/-- The line ends in a double quote from the place on, trailing blank characters aside. -/
def isQuoted (place : Cursor) : Bool :=
  (trimEnd place.after).getLast? == some '"'

/-- A place is in front of an opening quote when a double quote follows that no backslash
escapes. -/
def isOpening (place : Cursor) : Bool :=
  place.after.head? == some '"' && place.before.head? != some '\\'

/-- A place is behind a separator when the character on its left is one. -/
def isBehindSeparator (place : Cursor) : Bool :=
  place.before.head?.any isSeparator

/-- The place where the segment around a place begins. -/
def begin (place : Cursor) : Cursor :=
  let begins := if isQuoted place then isOpening else isBehindSeparator
  (place.last? begins).getD (Cursor.start place.text)

/-- The segment around a place begins in the same line. -/
theorem text_begin (place : Cursor) : (begin place).text = place.text := by
  unfold begin
  cases h : place.last? (if isQuoted place then isOpening else isBehindSeparator) with
  | none => simp [h]
  | some found => simpa [h] using Cursor.text_of_last? h

end Segment

/-- The segment around a place of a line, without blank characters at its ends. -/
def segment (place : Cursor) : List Char :=
  trim (Segment.begin place).after

end CompileCommands
