import CompileCommands.Text.Cursor

/-!
# Chained commands

A shell runs a further command after a semicolon or a double ampersand. This file cuts a command
off in front of the first of either; a single ampersand stays.

## Main definitions

* `Chaining.isAt`: whether a place is in front of a chaining operator.
* `unchain`: the command without the commands chained to it.
-/

namespace CompileCommands

open Text

namespace Chaining

/-- A place is in front of a chaining operator when a semicolon or a double ampersand follows. -/
def isAt (place : Cursor) : Bool :=
  match place.after with
  | ';' :: _ => true
  | '&' :: '&' :: _ => true
  | _ => false

end Chaining

/-- The command up to the first chaining operator, without blank characters at its ends. -/
def unchain (command : List Char) : List Char :=
  match Cursor.first? Chaining.isAt command with
  | some place => trim place.left
  | none => trim command

end CompileCommands
