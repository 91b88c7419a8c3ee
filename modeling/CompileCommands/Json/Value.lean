import CompileCommands.Json.Token

/-!
# Values of JSON

Tokens make up a value. They are read one after the other: what has been read of the arrays and
objects that are still open is kept beside what may come next, so that values may be nested to any
depth.

## Main definitions

* `Json.Value`: a value.
* `Json.Frame`: an array or object that is still open.
* `Json.State`: what has been read, and what may come next.
* `Json.State.step`: reading one more token.
* `Json.Value.ofTokens?`: the value that a sequence of tokens makes up.
* `Json.parse?`: the value that a text is.
-/

namespace CompileCommands.Json

/-- A JSON value. Texts are kept in pieces, and numbers as they are written. -/
inductive Value where
  | null
  | bool (value : Bool)
  | number (written : List Char)
  | text (pieces : List Piece)
  | array (items : List Value)
  | object (members : List (List Piece × Value))

/-- An array or object that is still open around the value that is being read. -/
inductive Frame where
  /-- An array with the items before the value, the last one first. -/
  | array (before : List Value)
  /-- An object with the members before the value, the last one first, and the key of the value. -/
  | object (before : List (List Piece × Value)) (key : List Piece)

/-- What may come next. The open arrays and objects are listed from the inside out. -/
inductive State where
  /-- A value must come. -/
  | value (frames : List Frame)
  /-- An array has been opened: its first item or its end must come. -/
  | firstItem (frames : List Frame)
  /-- An object has been opened: its first key or its end must come. -/
  | firstKey (frames : List Frame)
  /-- A comma has been read behind a member: a key must come. -/
  | key (before : List (List Piece × Value)) (frames : List Frame)
  /-- A key has been read: a colon must come. -/
  | colon (before : List (List Piece × Value)) (key : List Piece) (frames : List Frame)
  /-- A value has been read: what encloses it must go on or end. -/
  | after (value : Value) (frames : List Frame)

namespace State

/-- Reading the first token of a value. -/
def begin? (frames : List Frame) : Token → Option State
  | .null => some (.after .null frames)
  | .bool truth => some (.after (.bool truth) frames)
  | .number written => some (.after (.number written) frames)
  | .text pieces => some (.after (.text pieces) frames)
  | .openArray => some (.firstItem frames)
  | .openObject => some (.firstKey frames)
  | _ => none

/-- Reading the token behind an item of an array. -/
def afterItem? (items : List Value) (frames : List Frame) : Token → Option State
  | .comma => some (.value (.array items :: frames))
  | .closeArray => some (.after (.array items.reverse) frames)
  | _ => none

/-- Reading the token behind a member of an object. -/
def afterMember? (members : List (List Piece × Value)) (frames : List Frame) :
    Token → Option State
  | .comma => some (.key members frames)
  | .closeObject => some (.after (.object members.reverse) frames)
  | _ => none

/-- Reading one more token. -/
def step : State → Token → Option State
  | .value frames, token => begin? frames token
  | .firstItem frames, .closeArray => some (.after (.array []) frames)
  | .firstItem frames, token => begin? (.array [] :: frames) token
  | .firstKey frames, .closeObject => some (.after (.object []) frames)
  | .firstKey frames, .text name => some (.colon [] name frames)
  | .key before frames, .text name => some (.colon before name frames)
  | .colon before name frames, .colon => some (.value (.object before name :: frames))
  | .after item (.array before :: frames), token => afterItem? (item :: before) frames token
  | .after item (.object before name :: frames), token =>
    afterMember? ((name, item) :: before) frames token
  | _, _ => none

/-- The value that has been read, if nothing is open around it. -/
def value? : State → Option Value
  | .after whole [] => some whole
  | _ => none

end State

/-- The value that a sequence of tokens makes up. -/
def Value.ofTokens? (tokens : List Token) : Option Value :=
  tokens.foldlM State.step (.value []) >>= State.value?

/-- The value that a text is. -/
def parse? (text : List Char) : Option Value :=
  tokens? text >>= Value.ofTokens?

end CompileCommands.Json
