import CompileCommands.Pattern.Class
import CompileCommands.Text.Alphanumeric

/-!
# Reading patterns

A pattern is read from left to right. Open groups and open classes are kept on stacks, so that
nothing is read twice, and each part that is closed leaves behind how deeply it is nested. The flags
that a group changes are in force until its end.

What a pattern matches is of no interest here, only whether it can be used at all: it must be well
formed, it must not be nested too deeply, it must not match anything that is not UTF-8, and it must
not ask for the boundary of a word in the sense of Unicode.

Only patterns are read that have no closing brace in them. Counts and names in braces are therefore
never closed, and an opening brace outside of classes is refused.

## Main definitions

* `Pattern.Level`: a group as far as it has been read.
* `Pattern.Reading`: a pattern as far as it has been read.
* `Pattern.Reading.step`: a pattern with one more part read.
* `Pattern.check`: whether a text is a pattern that can be used.

## Main results

* `Pattern.scan_nil`, `Pattern.check_nil`: nothing is a pattern.
-/

namespace CompileCommands.Pattern

open Text

/-- A group as far as it has been read. -/
structure Level where
  /-- The flags in force. -/
  flags : Flags := {}
  /-- How deeply each branch is nested that has been read to its end. -/
  branches : List Nat := []
  /-- How deeply each item of the last branch is nested. -/
  items : List Nat := []
  /-- There is a last item, and it can be repeated. -/
  repeatable : Bool := false
  deriving DecidableEq, Repr

namespace Level

/-- How deeply the content of a group is nested. -/
def depth (level : Level) : Nat :=
  nesting (nesting level.items :: level.branches)

/-- A group with one more item. -/
def add (level : Level) (depth : Nat) : Level :=
  { level with items := depth :: level.items, repeatable := true }

/-- A group with its flags changed by an item. -/
def setFlags (level : Level) (flags : Flags) : Level :=
  { level with flags, items := 0 :: level.items, repeatable := false }

/-- A group with its last branch closed. -/
def alternate (level : Level) : Level :=
  { level with branches := nesting level.items :: level.branches, items := [], repeatable := false }

/-- A group with its last item repeated. -/
def repeatLast (level : Level) : Except Error Level :=
  match level.repeatable, level.items with
  | true, depth :: items => .ok { level with items := (depth + 1) :: items }
  | _, _ => .error .malformed

end Level

/-- A pattern as far as it has been read. -/
structure Reading where
  /-- The innermost open group, or the pattern itself. -/
  level : Level := {}
  /-- The open groups around it, from the inside out. -/
  outer : List Level := []
  /-- The open classes, from the inside out. -/
  classes : List OpenClass := []
  /-- The names that groups have been given. -/
  names : List (List Char) := []
  /-- The boundary of a word has been asked for. -/
  boundary : Bool := false
  deriving DecidableEq, Repr

namespace Reading

/-- The flags in force. -/
def flags (reading : Reading) : Flags :=
  reading.level.flags

/-- A pattern with one more item. -/
def add (reading : Reading) (depth : Nat) : Reading :=
  { reading with level := reading.level.add depth }

/-- A pattern with a group opened. -/
def openGroup (reading : Reading) (flags : Flags) : Reading :=
  { reading with level := { flags }, outer := reading.level :: reading.outer }

/-- A pattern with a group opened that has a name. -/
def openNamed (reading : Reading) (name : List Char) : Except Error Reading :=
  if reading.names.contains name then .error .malformed
  else .ok { reading.openGroup reading.flags with names := name :: reading.names }

/-- A pattern with a group closed. -/
def closeGroup (reading : Reading) : Except Error Reading :=
  match reading.outer with
  | [] => .error .malformed
  | level :: outer =>
    .ok { reading with level := level.add (reading.level.depth + 1), outer }

/-! ### Groups -/

/-- The name of a group begins with a letter or an underscore. Numbers, dots and brackets may
follow. -/
def isName : List Char → Bool
  | [] => false
  | c :: rest =>
    (isAlphabetic c || c == '_') &&
      rest.all fun d => isAlphanumeric d || ['_', '.', '[', ']'].contains d

/-- A pattern with a group opened whose name stands at the start of the text. -/
def readName (reading : Reading) (text : List Char) : Except Error (Reading × List Char) :=
  let name := text.takeWhile (· ≠ '>')
  match text.dropWhile (· ≠ '>') with
  | '>' :: rest =>
    if isName name then (reading.openNamed name).map (·, rest) else .error .malformed
  | _ => .error .malformed

/-- A pattern with the flags at the start of the text, for a group or for what is left of one. -/
def readFlags (reading : Reading) (text : List Char) : Except Error (Reading × List Char) := do
  let isEnd := fun c : Char => c == ':' || c == ')'
  let letters := text.takeWhile (!isEnd ·)
  let flags ← reading.flags.change letters
  match text.dropWhile (!isEnd ·) with
  | ':' :: rest => return (reading.openGroup flags, rest)
  | ')' :: rest =>
    if letters = [] then throw .malformed
    return ({ reading with level := reading.level.setFlags flags }, rest)
  | _ => throw .malformed

/-- A pattern with the start of a group behind its opening bracket. -/
def readGroup (reading : Reading) (text : List Char) : Except Error (Reading × List Char) :=
  match reading.flags.skip text with
  | '?' :: 'P' :: '<' :: rest | '?' :: '<' :: rest => reading.readName rest
  | '?' :: rest => reading.readFlags rest
  | rest => .ok (reading.openGroup reading.flags, rest)

/-! ### Items -/

/-- A pattern with an escape. A pattern about bytes cannot match single bytes that are not ASCII,
and it knows no properties. -/
def addEscape (reading : Reading) : Escape → Except Error Reading
  | .literal c byte =>
    if reading.flags.unicode || !byte || c.toNat < 0x80 then .ok (reading.add 0)
    else .error .malformed
  | .kind negated =>
    if reading.flags.unicode || !negated then .ok (reading.add 0) else .error .malformed
  | .property => if reading.flags.unicode then .ok (reading.add 0) else .error .malformed
  | .anchor => .ok (reading.add 0)
  | .boundary =>
    .ok { reading.add 0 with boundary := reading.boundary || reading.flags.unicode }

/-- A pattern with one more part outside of classes, which begins with the given character. -/
def stepOutside (reading : Reading) (c : Char) (rest : List Char) :
    Except Error (Reading × List Char) :=
  match c with
  | '(' => reading.readGroup rest
  | ')' => reading.closeGroup.map (·, rest)
  | '|' => .ok ({ reading with level := reading.level.alternate }, rest)
  | '[' =>
    let (cls, rest) := openClass reading.flags rest
    .ok ({ reading with classes := [cls] }, rest)
  | '?' | '*' | '+' => do
    let level ← reading.level.repeatLast
    return ({ reading with level }, if rest.head? = some '?' then rest.tail else rest)
  | '\x7b' => .error .malformed
  | '\\' => do
    let (escape, rest) ← readEscape reading.flags rest
    return (← reading.addEscape escape, rest)
  | '.' => if reading.flags.unicode then .ok (reading.add 0, rest) else .error .malformed
  | _ => .ok (reading.add 0, rest)

/-! ### Classes -/

/-- A class of the given nature can be had under the flags in force. -/
def requireClass (reading : Reading) (negated : Bool) : Except Error Unit :=
  if reading.flags.unicode || !negated then .ok () else .error .malformed

/-- A pattern with its innermost open class closed. -/
def closeClass (reading : Reading) (cls : OpenClass) : (outer : List OpenClass) → Reading
  | [] => { reading.add (cls.depth + 1) with classes := [] }
  | parent :: outer => { reading with classes := parent.add (cls.depth + 1) :: outer }

/-- A pattern with one more part of its innermost open class, which begins with the given
character. -/
def stepInside (reading : Reading) (cls : OpenClass) (outer : List OpenClass) (c : Char)
    (rest : List Char) : Except Error (Reading × List Char) :=
  let update := fun cls => { reading with classes := cls :: outer }
  if c = '[' then
    match readNamedClass? rest with
    | some (negated, rest) => do
      reading.requireClass negated
      return (update (cls.add 0), rest)
    | none =>
      let (inner, rest) := openClass reading.flags rest
      .ok ({ reading with classes := inner :: cls :: outer }, rest)
  else if c = ']' then do
    reading.requireClass cls.negated
    return (reading.closeClass cls outer, rest)
  else if ['&', '-', '~'].contains c ∧ rest.head? = some c then
    .ok (update cls.operate, rest.tail)
  else do
    return (update (cls.add 0), ← readRange reading.flags (c :: rest))

/-- A pattern with one more part, which begins with the given character, and what is left to be
read. -/
def step (reading : Reading) (c : Char) (rest : List Char) :
    Except Error (Reading × List Char) :=
  if reading.flags.skip (c :: rest) ≠ c :: rest then
    .ok (reading, reading.flags.skip (c :: rest))
  else
    match reading.classes with
    | [] => reading.stepOutside c rest
    | cls :: outer => reading.stepInside cls outer c rest

/-- The deepest nesting of a pattern. -/
def maxDepth : Nat :=
  250

/-- A pattern that has been read can be used. -/
def finish (reading : Reading) : Except Error Unit :=
  if reading.outer ≠ [] ∨ reading.classes ≠ [] ∨ maxDepth < reading.level.depth then
    .error .malformed
  else if reading.boundary then .error .wordBoundary
  else .ok ()

end Reading

/-- A pattern with a whole text read, the given number of whose first characters have been read
already. -/
def scan : Reading → (already : Nat) → List Char → Except Error Reading
  | reading, _, [] => .ok reading
  | reading, already + 1, _ :: rest => scan reading already rest
  | reading, 0, c :: rest => do
    let (reading, left) ← reading.step c rest
    scan reading (rest.length - left.length) rest

/-- A text is a pattern that can be used. -/
def check (text : List Char) : Except Error Unit := do
  (← scan {} 0 text).finish

/-- Nothing is left to be read at the end of a text. -/
@[simp] theorem scan_nil (reading : Reading) (already : Nat) :
    scan reading already [] = .ok reading := by
  cases already <;> rfl

/-- The empty text is a pattern. -/
theorem check_nil : check [] = .ok () := rfl

end CompileCommands.Pattern
