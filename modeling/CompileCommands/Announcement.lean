import CompileCommands.Text.Blank
import CompileCommands.Text.DecimalDigit
import CompileCommands.Text.Start

/-!
# Directory announcements

A recursive build tool announces the directories it works in. With blank characters around it, an
announcement reads

    make[1]: Entering directory '/src/app'
    make[1]: Leaving directory '/src/app'

The tool is `make` or `ninja`, the level in brackets may be missing, and the directory stands
between any two of the three quotes. It may itself hold or end in quotes and blank characters: the
last quote of the line closes it. A line break cannot stand in it, nor behind `Leaving directory `.

## Main definitions

* `Announcement`: entering a directory, or leaving one.
* `Announcement.ofLine?`: the announcement that a line makes.

## Main results

* `Announcement.skipLevel_level`: a bracketed level is passed over.
-/

namespace CompileCommands

open Text

/-- What a build tool says about the directory it works in. -/
inductive Announcement where
  /-- The tool enters the directory. -/
  | enter (directory : String)
  /-- The tool leaves the directory it entered last. -/
  | leave
  deriving DecidableEq, Repr

namespace Announcement

/-- The tools that announce directories. -/
def tools : List String :=
  ["make", "ninja"]

/-- The quotes that may stand around a directory. -/
def isQuote (c : Char) : Bool :=
  c == '\x60' || c == '\'' || c == '"'

/-- What follows the level in brackets, if the text starts with one. -/
def skipLevel? : List Char → Option (List Char)
  | '[' :: digit :: text =>
    if isDecimalDigit digit then
      match text.dropWhile isDecimalDigit with
      | ']' :: rest => some rest
      | _ => none
    else none
  | _ => none

/-- What follows the level in brackets; the whole text if it does not start with one. -/
def skipLevel (text : List Char) : List Char :=
  (skipLevel? text).getD text

/-- What a tool announces: the text behind the tool, the level and the colon. -/
def message? (line : List Char) : Option (List Char) := do
  let text ← tools.findSome? fun tool => after? tool.toList (trimStart line)
  after? ": ".toList (skipLevel text)

/-- The directory between an opening quote at the start and a closing quote at the end of the
text, blank characters behind the closing quote aside. -/
def quoted? : List Char → Option (List Char)
  | [] => none
  | quote :: text =>
    if isQuote quote then
      match (trimEnd text).reverse with
      | [] => none
      | close :: backwards =>
        if isQuote close && !backwards.contains '\n' then some backwards.reverse else none
    else none

/-- The directory that a message says is entered. -/
def entered? (message : List Char) : Option (List Char) :=
  after? "Entering directory ".toList message >>= quoted?

/-- The message says that a directory is left. -/
def isLeaving (message : List Char) : Bool :=
  (after? "Leaving directory ".toList message).any (!·.contains '\n')

/-- The announcement that a message makes. -/
def ofMessage? (message : List Char) : Option Announcement :=
  match entered? message with
  | some directory => some (.enter (String.ofList directory))
  | none => if isLeaving message then some .leave else none

/-- The announcement that a line makes. -/
def ofLine? (line : List Char) : Option Announcement :=
  message? line >>= ofMessage?

/-- A bracketed level is passed over. -/
theorem skipLevel_level {digits : List Char} (rest : List Char) (hne : digits ≠ [])
    (h : ∀ c ∈ digits, isDecimalDigit c = true) :
    skipLevel ('[' :: digits ++ ']' :: rest) = rest := by
  obtain ⟨digit, digits, rfl⟩ := List.exists_cons_of_ne_nil hne
  have hdigits : ∀ c ∈ digits, isDecimalDigit c = true := fun c hc => h c (by simp [hc])
  have hclose : isDecimalDigit ']' = false := by decide
  simp [skipLevel, skipLevel?, h digit, List.dropWhile_append_of_pos hdigits, hclose]

end Announcement

end CompileCommands
