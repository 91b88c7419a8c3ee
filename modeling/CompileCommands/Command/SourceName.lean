import CompileCommands.Text.Cursor
import CompileCommands.Text.Start
import CompileCommands.Text.WordChar

/-!
# Names of source files

The source file of a command is the first name in it with the ending of a C, C++ or assembly
source. A name is a maximal run of word characters, dots, slashes, plus signs and hyphens. It may
go on behind its source ending, as in `a.c.o`: then the part up to the last source ending in it is
the name of the file, and a name without a source ending is passed over.

## Main definitions

* `isNameChar`: the characters of a name.
* `sourceEndings`: the endings of source files.
* `SourceName.isStop`: whether a place of a name is behind a source ending.
* `SourceName.ofName?`: a name up to its last source ending.
* `SourceName.find?`: the first source file that a command names.
-/

namespace CompileCommands

open Text

/-- A character of a name: a word character, a dot, a slash, a plus sign or a hyphen. -/
def isNameChar (c : Char) : Bool :=
  isWordChar c || c == '.' || c == '/' || c == '+' || c == '-'

/-- The endings of source files, in small letters. -/
def sourceEndings : List String :=
  ["s", "c", "cc", "cpp", "cxx"]

namespace SourceName

/-- The small letter that a letter of an ending stands for. The long s stands for an s. -/
def foldLetter (c : Char) : Char :=
  if c = '\u017f' then 's' else c.toLower

/-- The text, read from right to left, begins with the ending, whose letters may be large or
small, and goes on with a dot and at least one more character. -/
def endsIn (backwards : List Char) (ending : String) : Bool :=
  (backwards.take ending.length).map foldLetter == ending.toList.reverse &&
    match backwards.drop ending.length with
    | '.' :: _ :: _ => true
    | _ => false

/-- A place of a name is behind a source ending when the part to its left has the ending and no
word character follows. -/
def isStop (place : Cursor) : Bool :=
  !startsWithWordChar place.after && sourceEndings.any (endsIn place.before)

/-- The name up to its last source ending. -/
def ofName? (name : List Char) : Option (List Char) :=
  ((Cursor.finish name).last? isStop).map Cursor.left

/-- The maximal runs of name characters in a text, with an empty run between any two neighbouring
characters that belong to none. -/
def names (text : List Char) : List (List Char) :=
  text.splitOnP (!isNameChar ·)

/-- The first source file that a command names. -/
def find? (command : List Char) : Option (List Char) :=
  (names command).findSome? ofName?

end SourceName

end CompileCommands
