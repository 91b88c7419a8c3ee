import CompileCommands.Text.Hex
import CompileCommands.Text.Printable

/-!
# Quoted text in log lines

The values in a log line stand between double quotes. Tabs, line breaks and null characters are
escaped by a letter, quotes and backslashes by a backslash, and every other character that is not
printable by its code point, so that a value stays on its line whatever it holds.

The text of a message itself stands without quotes. Only the control characters that a terminal
would take for commands are escaped in it.

## Main definitions

* `Log.quote`: a value between quotes.
* `Log.clean`: the text of a message.
-/

namespace CompileCommands.Log

open Text

/-- A code point in hexadecimal digits, between braces. -/
def codePoint (c : Char) : List Char :=
  ['\\', 'u', '\x7b'] ++ Nat.toDigits 16 c.toNat ++ ['\x7d']

/-- A character of a value. -/
def escape (c : Char) : List Char :=
  match c with
  | '\x00' => ['\\', '0']
  | '\t' => ['\\', 't']
  | '\n' => ['\\', 'n']
  | '\r' => ['\\', 'r']
  | '"' => ['\\', '"']
  | '\\' => ['\\', '\\']
  | c => if isPrintable c then [c] else codePoint c

/-- A value between quotes. -/
def quote (text : String) : String :=
  String.ofList ('"' :: text.toList.flatMap escape ++ ['"'])

/-- A control character below U+0080 that a terminal takes for a command. -/
def isTerminalControl (c : Char) : Bool :=
  c == '\x07' || c == '\x08' || c == '\x0c' || c == '\x1b' || c == '\x7f'

/-- A character of a message. -/
def cleanChar (c : Char) : List Char :=
  if isTerminalControl c then
    ['\\', 'x', hexDigit (c.toNat / 16), hexDigit (c.toNat % 16)]
  else if 0x80 ≤ c.toNat ∧ c.toNat ≤ 0x9f then codePoint c
  else [c]

/-- The text of a message. -/
def clean (text : String) : String :=
  String.ofList (text.toList.flatMap cleanChar)

end CompileCommands.Log
