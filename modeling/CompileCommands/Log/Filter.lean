import CompileCommands.Log.Level
import CompileCommands.Log.Number
import CompileCommands.Pattern.Reader
import CompileCommands.Text.Alphanumeric
import CompileCommands.Text.Cursor
import CompileCommands.Text.Start

/-!
# Log filters

Every message comes from a part of the program, its target, and has values with names. A filter is a
list of rules, each of which limits the messages from the targets that begin with a given text, or
only those of them that meet a condition. Of all rules that apply to a message the most specific one
decides, and a message to which no rule applies is not shown.

A filter is written as a list with commas. An entry is a limit for all targets, a target with its
limit behind an equals sign, or a target with no limit behind it, which shows everything from there.
Behind the target a condition may stand in brackets: the name of a span, and in braces the name of a
value, which is a number or matches a pattern if an equals sign says so. A limit is the name of a
level, its rank as a number, or `off`. Empty entries are passed over, and entries that cannot be
understood are passed over with a complaint. A filter without any rule shows errors only.

The blanks around an entry do not count when its parts are looked for, but its parts are taken from
the entry with them. In an indented entry, therefore, every part begins too early.

## Main definitions

* `Filter.Condition`, `Filter.Rule`, `Filter`: the rules.
* `Filter.EntryError`: why an entry cannot be understood.
* `Filter.readEntry`: the rule that an entry writes down.
* `Filter.parse`, `Filter.complaints`: the filter that a text writes down, and the complaints about
  it.
* `Filter.limit`: the limit for the messages from a target.
* `Filter.shows`: whether a message is shown.
-/

namespace CompileCommands

open Text

/-- Which of the messages from a target a rule is about. -/
inductive Filter.Condition where
  /-- All of them. -/
  | always
  /-- Those that have a value of this name. -/
  | value (name : List Char)
  /-- Those within a span, which is a piece of work with a name. No work is given one here. -/
  | withinSpan
  deriving DecidableEq, Repr

/-- A limit for the messages from the targets that begin with a text. -/
structure Filter.Rule where
  /-- The beginning of the targets. -/
  target : List Char
  /-- What is asked of the messages. -/
  condition : Filter.Condition
  /-- The greatest rank that is shown. -/
  limit : Nat
  deriving DecidableEq, Repr

/-- The rules that decide which messages are shown. -/
structure Filter where
  /-- The rules, in the order in which they are given. -/
  rules : List Filter.Rule
  deriving DecidableEq, Repr

namespace Filter

/-- Why an entry of a filter cannot be understood. -/
inductive EntryError where
  /-- The parts of the entry are not where they should be. -/
  | malformed
  /-- The entry names a limit that is none. -/
  | unknownLimit
  /-- The pattern for a value cannot be used. -/
  | pattern (cause : Pattern.Error)
  deriving DecidableEq, Repr

/-- The words in which an entry is complained about. -/
def EntryError.message : EntryError → String
  | .malformed => "invalid filter directive"
  | .unknownLimit =>
    "error parsing level filter: expected one of \"off\", \"error\", \"warn\", \"info\", " ++
      "\"debug\", \"trace\", or a number 0-5"
  | .pattern cause => "invalid field filter: " ++ cause.message

/-- The names of the limits, in small letters. -/
def limitNames : List (String × Nat) :=
  [("off", 0), ("error", 1), ("warn", 2), ("info", 3), ("debug", 4), ("trace", 5)]

/-- The limit with the given rank or name. A name may be in letters of either size. -/
def limitOf? (word : List Char) : Option Nat :=
  match number? word with
  | some n => if n ≤ Level.trace.rank then some n else none
  | none => limitNames.lookup (String.ofList (word.map Char.toLower))

/-- The first character of an entry that is not blank begins a target or a condition. -/
def isEntryStart (c : Char) : Bool :=
  isAlphanumeric c || c == '-' || c == ':' || c == '_' || c == '['

/-- A character of a target. -/
def isTargetChar (c : Char) : Bool :=
  c != '=' && c != '['

/-- A character of the name of a span. -/
def isSpanChar (c : Char) : Bool :=
  c != ']' && c != '\x7b'

/-- What stands in front of a byte offset of a text, and what stands behind it. Everything stands in
front of an offset at which no character begins. -/
def cut (text : List Char) (offset : Nat) : List Char × List Char :=
  match Cursor.at? text offset with
  | some place => (place.before.reverse, place.after)
  | none => (text, [])

/-- What stands in an entry from the place on where a text stands in the body of the entry. -/
def fromPlace (entry body text : List Char) : List Char :=
  (cut entry (byteLength body - byteLength text)).2

/-- The condition in braces. Spans alone can be asked for the content of their values. -/
def valueCondition (named : Bool) (text : List Char) : Except EntryError Condition :=
  match divide '=' text with
  | (name, none) => .ok (if named then .withinSpan else .value name)
  | (_, some rest) =>
    let value := (divide '=' rest).1
    match if isNumber value then .ok () else Pattern.check value with
    | .ok () => .ok .withinSpan
    | .error cause => .error (.pattern cause)

/-- The condition behind an opening bracket in the body of an entry, and what follows the closing
one there. -/
def readCondition (entry body text : List Char) : Except EntryError (Condition × List Char) :=
  match text.dropWhile isSpanChar with
  | ']' :: rest => .ok (.withinSpan, rest)
  | '\x7b' :: values =>
    match divide '\x7d' values with
    | (_, none) | ([], _) => .error .malformed
    | (value, some behind) => do
      let named := text.head?.any isSpanChar
      let content := (cut (fromPlace entry body values) (byteLength value)).1
      let condition ← valueCondition named content
      match behind with
      | ']' :: rest => return (condition, rest)
      | _ => throw .malformed
  | _ => .error .malformed

/-- The limit behind the target and the condition in the body of an entry. Without an equals sign,
and behind one at the very end, everything is shown. -/
def readLimit (entry body : List Char) : (text : List Char) → Except EntryError Nat
  | [] => .ok Level.trace.rank
  | '=' :: text =>
    let word := fromPlace entry body text
    if word = [] then .ok Level.trace.rank
    else (limitOf? word).elim (.error .unknownLimit) .ok
  | _ => .error .malformed

/-- The rule that an entry writes down. A word alone is a limit for all targets if there is a limit
of this name. -/
def readEntry (entry : List Char) : Except EntryError Rule := do
  let body := trim entry
  if !body.head?.any isEntryStart then throw .malformed
  let target := (cut entry (byteLength (body.takeWhile isTargetChar))).1
  match body.dropWhile isTargetChar with
  | [] =>
    match limitOf? entry with
    | some limit => return ⟨[], .always, limit⟩
    | none => return ⟨entry, .always, Level.trace.rank⟩
  | '[' :: text =>
    let (condition, rest) ← readCondition entry body text
    return ⟨target, condition, ← readLimit entry body rest⟩
  | rest => return ⟨target, .always, ← readLimit entry body rest⟩

/-- The entries of a filter that are not empty. -/
def entries (text : String) : List (List Char) :=
  (text.toList.splitOn ',').filter (· ≠ [])

/-- The filter that shows the messages of a level and of those that matter more, from the targets
that begin with a text. -/
def upTo (target : String) (level : Level) : Filter :=
  ⟨[⟨target.toList, .always, level.rank⟩]⟩

/-- The filter that a text writes down. -/
def parse (text : String) : Filter :=
  match (entries text).filterMap fun entry => (readEntry entry).toOption with
  | [] => ⟨[⟨[], .always, Level.error.rank⟩]⟩
  | rules => ⟨rules⟩

/-- The complaint about an entry, if it cannot be understood. -/
def complaint? (entry : List Char) : Option String :=
  match readEntry entry with
  | .ok _ => none
  | .error cause => some ("ignoring `" ++ String.ofList entry ++ "`: " ++ cause.message)

/-- The complaints about the text of a filter, entry by entry. -/
def complaints (text : String) : List String :=
  (entries text).filterMap complaint?

/-- A message meets a condition, given the names of its values. -/
def Condition.holds (names : List String) : Condition → Bool
  | .always => true
  | .value name => names.any fun given => given.toList == name
  | .withinSpan => false

/-- One condition is at least as specific as another. Asking for a value is more specific than
asking for none; of two values the one whose name comes later counts as the more specific one. -/
def Condition.refines : (condition other : Condition) → Bool
  | .value name, .value other => !name.lex other
  | .always, .value _ => false
  | _, _ => true

/-- One rule is at least as specific as another that applies to the same message. The length of
the target comes before the condition. -/
def Rule.refines (rule other : Rule) : Bool :=
  if rule.target.length = other.target.length then rule.condition.refines other.condition
  else other.target.length < rule.target.length

/-- A rule applies to the messages from a target that have values of the given names. -/
def Rule.applies (rule : Rule) (target : String) (names : List String) : Bool :=
  rule.target.isPrefixOf target.toList && rule.condition.holds names

/-- The rule that decides, of the one found so far and one after it. Of two rules that are equally
specific the later one decides. -/
def decisive : Option Rule → Rule → Option Rule
  | none, rule => some rule
  | some found, rule => some (if rule.refines found then rule else found)

/-- The limit for the messages from a target that have values of the given names. -/
def limit (filter : Filter) (target : String) (names : List String) : Nat :=
  ((filter.rules.filter (·.applies target names)).foldl decisive none).elim 0 Rule.limit

/-- A message of the given level from the given target is shown, if it has values of the given
names. -/
def shows (filter : Filter) (target : String) (names : List String) (level : Level) : Bool :=
  level.rank ≤ filter.limit target names

end Filter

end CompileCommands
