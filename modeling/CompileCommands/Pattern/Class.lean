import CompileCommands.Pattern.Escape

/-!
# Classes in patterns

A class stands in brackets and is made up of characters, ranges, escapes, named classes and classes
in brackets of their own. Behind the opening bracket a caret negates the class, hyphens stand for
themselves, and so does a closing bracket that comes first of all. Doubled ampersands, hyphens and
tildes put classes together, from left to right.

A pattern about bytes has only ASCII characters in its classes, so it cannot negate any of them.

## Main definitions

* `Pattern.nesting`: how deeply parts in a row are nested.
* `Pattern.OpenClass`: a class as far as it has been read.
* `Pattern.openClass`: the start of a class.
* `Pattern.readNamedClass?`, `Pattern.readRange`: a part of a class.
-/

namespace CompileCommands.Pattern

open Text

/-- How deeply several parts in a row are nested, given how deeply each of them is. A row of one is
that one, and any other row with parts is a level of its own. -/
def nesting : List Nat → Nat
  | [] => 0
  | [depth] => depth
  | depths => depths.foldl max 0 + 1

/-- A class as far as it has been read. -/
structure OpenClass where
  /-- The class is negated. -/
  negated : Bool
  /-- How deeply the classes in front of the last operator are nested, if there is one. -/
  left? : Option Nat
  /-- How deeply each part behind the last operator is nested. -/
  parts : List Nat
  deriving DecidableEq, Repr

namespace OpenClass

/-- How deeply the content of a class is nested. -/
def depth (cls : OpenClass) : Nat :=
  match cls.left? with
  | none => nesting cls.parts
  | some left => max left (nesting cls.parts) + 1

/-- A class with one more part. -/
def add (cls : OpenClass) (depth : Nat) : OpenClass :=
  { cls with parts := depth :: cls.parts }

/-- A class with an operator behind it. -/
def operate (cls : OpenClass) : OpenClass :=
  { cls with left? := some cls.depth, parts := [] }

end OpenClass

/-- The number of hyphens at the start of a text, and what follows them. -/
def readHyphens (flags : Flags) : (inComment : Bool) → List Char → Nat × List Char
  | _, [] => (0, [])
  | true, c :: text => readHyphens flags (c != '\n') text
  | false, c :: text =>
    if c = '-' then
      let (count, rest) := readHyphens flags false text
      (count + 1, rest)
    else if flags.verbose && isBlank c then readHyphens flags false text
    else if flags.verbose && c == '#' then readHyphens flags true text
    else (0, c :: text)

/-- The start of a class behind its opening bracket, and what follows it. -/
def openClass (flags : Flags) (text : List Char) : OpenClass × List Char :=
  let text := flags.skip text
  let negated := text.head? = some '^'
  let text := if negated then text.tail else text
  match readHyphens flags false text with
  | (0, ']' :: rest) => (⟨negated, none, [0]⟩, rest)
  | (hyphens, rest) => (⟨negated, none, List.replicate hyphens 0⟩, rest)

/-- The names of the named classes. -/
def classNames : List String :=
  ["alnum", "alpha", "ascii", "blank", "cntrl", "digit", "graph", "lower", "print", "punct",
    "space", "upper", "word", "xdigit"]

/-- The named class at the start of a text, behind its opening bracket: whether it is negated, and
what follows it. -/
def readNamedClass? : List Char → Option (Bool × List Char)
  | ':' :: text =>
    let negated := text.head? = some '^'
    let text := if negated then text.tail else text
    let name := text.takeWhile (· ≠ ':')
    match text.dropWhile (· ≠ ':') with
    | ':' :: ']' :: rest =>
      if classNames.contains (String.ofList name) then some (negated, rest) else none
    | _ => none
  | _ => none

/-- A character in a class. -/
def classLiteral (flags : Flags) (c : Char) : Except Error (Option Char) :=
  if flags.unicode || c.toNat < 0x80 then .ok (some c) else .error .malformed

/-- What an escape stands for in a class, as a character if it is a single one. -/
def classEscape (flags : Flags) : Escape → Except Error (Option Char)
  | .literal c _ => classLiteral flags c
  | .kind negated => if flags.unicode || !negated then .ok none else .error .malformed
  | .property => if flags.unicode then .ok none else .error .malformed
  | .anchor | .boundary => .error .malformed

/-- The character or the escape at the start of a text, and what follows it. -/
def readClassItem (flags : Flags) : List Char → Except Error (Option Char × List Char)
  | [] => .error .malformed
  | '\\' :: text => do
    let (escape, rest) ← readEscape flags text
    return (← classEscape flags escape, rest)
  | c :: text => do
    return (← classLiteral flags c, text)

/-- What follows the character, the escape or the range at the start of a text. A hyphen with a
bracket or another hyphen behind it makes no range. -/
def readRange (flags : Flags) (text : List Char) : Except Error (List Char) := do
  let (first?, rest) ← readClassItem flags text
  match flags.skip rest with
  | '-' :: behind =>
    if (flags.peek? behind).any fun c => c == ']' || c == '-' then return '-' :: behind
    match first?, ← readClassItem flags (flags.skip behind) with
    | some first, (some last, rest) => if first ≤ last then return rest else throw .malformed
    | _, _ => throw .malformed
  | rest => return rest

end CompileCommands.Pattern
