import CompileCommands.Pattern.Flags
import CompileCommands.Text.Hex

/-!
# Escapes in patterns

A pattern is a regular expression. Behind a backslash stands a character that is meant literally, a
character by its code point, a kind of characters, a property that characters have, or a place
between two characters. Letters and digits that have no such meaning are kept for the future and
cannot be escaped. Where blanks stand for nothing, they may also stand in front of the digits of a
code point, between them, and in front of the letter of a property.

## Main definitions

* `Pattern.Escape`: what an escape stands for.
* `Pattern.readEscape`: the escape at the start of a text, behind its backslash.
-/

namespace CompileCommands.Pattern

open Text

/-- What an escape stands for. -/
inductive Escape where
  /-- A character, which may be given as a byte. -/
  | literal (c : Char) (byte : Bool)
  /-- The digits, the blanks or the word characters, or all characters but those. -/
  | kind (negated : Bool)
  /-- The characters with a property, or those without it. -/
  | property
  /-- The start or the end of the text. -/
  | anchor
  /-- A place where a word begins or ends, or where none does. -/
  | boundary
  deriving DecidableEq, Repr

/-- The letters that stand for control characters. -/
def controls : List (Char × Char) :=
  [('a', '\x07'), ('t', '\t'), ('n', '\n'), ('v', '\x0b'), ('f', '\x0c'), ('r', '\r')]

/-- The properties with a name of one letter. -/
def isPropertyLetter (c : Char) : Bool :=
  "CLMNPSZ".toList.contains c.toUpper

/-- A character without a meaning of its own behind a backslash. -/
def isEscapable (c : Char) : Bool :=
  c.toNat < 0x80 && !c.isAlphanum

/-- So many characters from the start of a text, without what stands for nothing in front of them,
and what follows them. -/
def readChars (flags : Flags) : (count : Nat) → List Char → Except Error (List Char × List Char)
  | 0, text => .ok ([], text)
  | count + 1, text =>
    match flags.skip text with
    | [] => .error .malformed
    | c :: text => (readChars flags count text).map fun (chars, rest) => (c :: chars, rest)

/-- The character with the code point in so many hexadecimal digits. -/
def readCodePoint (flags : Flags) (count : Nat) (text : List Char) :
    Except Error (Char × List Char) := do
  let (digits, rest) ← readChars flags count text
  match hexNumber? digits >>= scalar? with
  | some c => return (c, rest)
  | none => throw .malformed

/-- The escape of one character. -/
def escapeOf (c : Char) : Except Error Escape :=
  if ['d', 's', 'w'].contains c then .ok (.kind false)
  else if ['D', 'S', 'W'].contains c then .ok (.kind true)
  else if ['A', 'z'].contains c then .ok .anchor
  else if ['b', 'B', '<', '>'].contains c then .ok .boundary
  else
    match controls.lookup c with
    | some control => .ok (.literal control false)
    | none => if isEscapable c then .ok (.literal c false) else .error .malformed

/-- The escape at the start of a text, behind its backslash, and what follows it. -/
def readEscape (flags : Flags) : List Char → Except Error (Escape × List Char)
  | [] => .error .malformed
  | 'x' :: text => (readCodePoint flags 2 text).map fun (c, rest) => (.literal c true, rest)
  | 'u' :: text => (readCodePoint flags 4 text).map fun (c, rest) => (.literal c false, rest)
  | 'U' :: text => (readCodePoint flags 8 text).map fun (c, rest) => (.literal c false, rest)
  | 'p' :: text | 'P' :: text =>
    match flags.skip text with
    | c :: rest => if isPropertyLetter c then .ok (.property, rest) else .error .malformed
    | [] => .error .malformed
  | c :: text => (escapeOf c).map fun escape => (escape, text)

end CompileCommands.Pattern
