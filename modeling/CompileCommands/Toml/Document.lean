import CompileCommands.Toml.Quoted

/-!
# Documents of texts in TOML

A document gives texts names, one to a line, with blank lines and comments between them. TOML has
tables and other kinds of values too; a document that has any is none of these documents. A byte
order mark may precede a document, and its lines may be closed by carriage return and line feed.

## Main definitions

* `Toml.Assignment`: a name and the text given to it.
* `Toml.readLine?`: the first line of a document.
* `Toml.assignments?`: the assignments of a document.
-/

namespace CompileCommands.Toml

open Text

/-- A name and the text given to it. -/
structure Assignment where
  /-- The name. -/
  key : List Char
  /-- The text. -/
  value : List Char
  deriving DecidableEq, Repr

/-- The text with a line feed in place of each carriage return that has one behind it. -/
def foldReturns : List Char → List Char
  | '\r' :: '\n' :: text => '\n' :: foldReturns text
  | c :: text => c :: foldReturns text
  | [] => []

/-- The text without the byte order mark that it may begin with. -/
def skipMark : List Char → List Char
  | '\ufeff' :: text => text
  | text => text

/-- What follows the spaces and tabs at the start of the text. -/
def skipSpaces (text : List Char) : List Char :=
  text.dropWhile isSpace

/-- A character of a name that is not quoted. -/
def isKeyChar (c : Char) : Bool :=
  c.isAlphanum || c == '-' || c == '_'

/-- A character of a comment: a tab or any character that is not below a space. -/
def isCommentChar (c : Char) : Bool :=
  c == '\t' || 0x20 ≤ c.toNat

/-- What follows the comment at the start of the text, if there is one. -/
def skipComment : List Char → List Char
  | '#' :: text => text.dropWhile isCommentChar
  | text => text

/-- The name at the start of the text, and what follows it. A quoted name stays on one line. -/
def readKey? (text : List Char) : Option (List Char × List Char) :=
  match text.takeWhile isKeyChar with
  | [] =>
    match readQuoted? text with
    | some (⟨_, false⟩, key, rest) => some (key, rest)
    | _ => none
  | key => some (key, text.dropWhile isKeyChar)

/-- The assignment at the start of the text, and what follows it. -/
def readAssignment? (text : List Char) : Option (Assignment × List Char) := do
  let (key, rest) ← readKey? text
  let rest ← after? ['='] (skipSpaces rest)
  let (_, value, rest) ← readQuoted? (skipSpaces rest)
  some (⟨key, value⟩, rest)

/-- A line that begins with this text holds no assignment. -/
def isBare : List Char → Bool
  | [] => true
  | c :: _ => c == '\n' || c == '#'

/-- The assignment at the start of a line, if the line holds one, and what follows it. -/
def readContent? (text : List Char) : Option (Option Assignment × List Char) :=
  if isBare text then some (none, text)
  else (readAssignment? text).map fun (assignment, rest) => (some assignment, rest)

/-- What follows the end of a line. -/
def skipLineFeed? : List Char → Option (List Char)
  | [] => some []
  | '\n' :: text => some text
  | _ => none

/-- The assignment in the first line of the text, if the line holds one, and what follows the
line. -/
def readLine? (text : List Char) : Option (Option Assignment × List Char) := do
  let (assignment, rest) ← readContent? (skipSpaces text)
  let rest ← skipLineFeed? (skipComment (skipSpaces rest))
  some (assignment, rest)

/-! ### A line takes up part of the text -/

private theorem length_skipSpaces (text : List Char) : (skipSpaces text).length ≤ text.length :=
  (List.dropWhile_suffix isSpace).length_le

private theorem length_skipComment (text : List Char) :
    (skipComment text).length ≤ text.length := by
  unfold skipComment
  split
  case h_1 text =>
    have := (List.dropWhile_suffix isCommentChar (l := text)).length_le
    simp only [List.length_cons]
    omega
  case h_2 => simp

private theorem length_readKey? {text key rest : List Char} (h : readKey? text = some (key, rest)) :
    rest.length ≤ text.length := by
  unfold readKey? at h
  split at h
  case h_1 =>
    split at h
    case h_1 hread =>
      cases h
      exact Nat.le_of_lt (length_readQuoted? hread)
    case h_2 => simp at h
  case h_2 =>
    cases h
    exact (List.dropWhile_suffix isKeyChar).length_le

private theorem length_readAssignment? {text rest : List Char} {assignment : Assignment}
    (h : readAssignment? text = some (assignment, rest)) : rest.length < text.length := by
  simp only [readAssignment?, Option.bind_eq_bind, Option.bind_eq_some_iff, Option.some.injEq,
    Prod.mk.injEq] at h
  obtain ⟨⟨_, afterKey⟩, hkey, afterSign, hsign, ⟨_, _, _⟩, hvalue, _, rfl⟩ := h
  have hkey := length_readKey? hkey
  have hspaces := length_skipSpaces afterKey
  have hvalue := length_readQuoted? hvalue
  have hsigns := length_skipSpaces afterSign
  rw [after?_eq_some_iff.1 hsign] at hspaces
  simp only [List.cons_append, List.nil_append, List.length_cons] at hspaces hvalue ⊢
  omega

private theorem length_readContent? {text rest : List Char} {content : Option Assignment}
    (h : readContent? text = some (content, rest)) : rest.length ≤ text.length := by
  unfold readContent? at h
  split at h
  · cases h
    exact Nat.le_refl _
  · simp only [Option.map_eq_some_iff, Prod.mk.injEq] at h
    obtain ⟨⟨_, _⟩, hread, _, rfl⟩ := h
    exact Nat.le_of_lt (length_readAssignment? hread)

private theorem length_skipLineFeed? {text rest : List Char} (h : skipLineFeed? text = some rest)
    (hne : 0 < rest.length) : rest.length < text.length := by
  unfold skipLineFeed? at h
  split at h <;> simp at h
  · subst h
    simp at hne
  · subst h
    simp

/-- The first line takes up part of a text that is not empty. -/
theorem length_readLine? {text rest : List Char} {content : Option Assignment}
    (h : readLine? text = some (content, rest)) (hne : text ≠ []) :
    rest.length < text.length := by
  simp only [readLine?, Option.bind_eq_bind, Option.bind_eq_some_iff, Option.some.injEq,
    Prod.mk.injEq] at h
  obtain ⟨⟨_, behind⟩, hcontent, _, hfeed, _, rfl⟩ := h
  have hpos := List.length_pos_iff.2 hne
  have := length_skipSpaces text
  have := length_readContent? hcontent
  have := length_skipSpaces behind
  have := length_skipComment (skipSpaces behind)
  have := length_skipLineFeed? hfeed
  simp only at *
  omega

/-! ### Documents -/

/-- The assignments of a text without carriage returns at the ends of its lines. -/
def readLines? (text : List Char) : Option (List Assignment) :=
  if hne : text = [] then some []
  else
    match h : readLine? text with
    | none => none
    | some (assignment, rest) =>
      have := length_readLine? h hne
      (readLines? rest).map (assignment.toList ++ ·)
termination_by text.length

/-- The assignments of a document, in order. -/
def assignments? (text : List Char) : Option (List Assignment) :=
  readLines? (foldReturns (skipMark text))

end CompileCommands.Toml
