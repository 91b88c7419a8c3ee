import CompileCommands.Text.Cursor
import CompileCommands.Text.Start
import CompileCommands.Text.WordChar

/-!
# Compiler words

A line of build output runs a compiler when it contains the name of a compiler or of a compiler
wrapper as a word of its own. The name may end a longer path or a cross compiler's name, as in
`/usr/bin/gcc` or `arm-none-eabi-g++`, it may carry the ending `.exe`, and it may close a quoted
path. A blank character must follow, since a compiler without arguments compiles nothing.

## Main definitions

* `compilerWords`: the names of compilers and wrappers.
* `CompilerToken`: a name together with its ending and its closing quote.
* `CompilerToken.at?`: the compiler token at the start of a text.
* `Compiler.isAt`: whether a place of a line is in front of a compiler token.
* `Compiler.find?`: the first such place.

## Main results

* `CompilerToken.of_at?`: a token is a name from the list, is followed by a blank character, and
  stands in the text as it is.
-/

namespace CompileCommands

open Text

/-- The names of compilers and of compiler wrappers. -/
def compilerWords : List String :=
  ["cc", "gcc", "g++", "c++", "clang", "clang+", "clang++", "icecc", "ccache", "sccache"]

/-- The name of a compiler as it stands in a line. -/
structure CompilerToken where
  /-- The name, one of `compilerWords`. -/
  word : String
  /-- The name carries the ending `.exe`. -/
  hasExe : Bool
  /-- A double quote closes the path that the name ends. -/
  hasQuote : Bool
  deriving DecidableEq, Repr

namespace CompilerToken

/-- The characters of the token. -/
def text (token : CompilerToken) : List Char :=
  token.word.toList ++ (if token.hasExe then ".exe".toList else []) ++
    (if token.hasQuote then ['"'] else [])

/-- Whether the ending `.exe` comes next, and what follows it. -/
def takeExe (rest : List Char) : Bool × List Char :=
  match after? ".exe".toList rest with
  | some rest => (true, rest)
  | none => (false, rest)

/-- Whether a double quote comes next, and what follows it. -/
def takeQuote : List Char → Bool × List Char
  | '"' :: rest => (true, rest)
  | rest => (false, rest)

/-- The compiler token with the given name at the start of a text. -/
def named? (word : String) (text : List Char) : Option CompilerToken := do
  let rest ← after? word.toList text
  let (hasExe, rest) := takeExe rest
  let (hasQuote, rest) := takeQuote rest
  if rest.head?.any isBlank then some ⟨word, hasExe, hasQuote⟩ else none

/-- The compiler token at the start of a text. -/
def at? (text : List Char) : Option CompilerToken :=
  compilerWords.findSome? (named? · text)

private theorem takeExe_eq (rest : List Char) :
    rest = (if (takeExe rest).1 then ".exe".toList else []) ++ (takeExe rest).2 := by
  unfold takeExe
  split
  case h_1 h => simpa using after?_eq_some_iff.1 h
  case h_2 => simp

private theorem takeQuote_eq (rest : List Char) :
    rest = (if (takeQuote rest).1 then ['"'] else []) ++ (takeQuote rest).2 := by
  unfold takeQuote
  split <;> simp

/-- A token with a given name stands in the text as it is, in front of a blank character. -/
theorem of_named? {word : String} {text : List Char} {token : CompilerToken}
    (h : named? word text = some token) :
    token.word = word ∧
      ∃ blank rest, isBlank blank = true ∧ text = token.text ++ blank :: rest := by
  simp only [named?, Option.bind_eq_bind, Option.bind_eq_some_iff] at h
  obtain ⟨rest, hrest, h⟩ := h
  split at h
  case isFalse => simp at h
  case isTrue hblank =>
    cases h
    refine ⟨rfl, ?_⟩
    cases htail : (takeQuote (takeExe rest).2).2 with
    | nil => simp [htail] at hblank
    | cons blank tail =>
      refine ⟨blank, tail, by simpa [htail] using hblank, ?_⟩
      have hexe := takeExe_eq rest
      rw [takeQuote_eq (takeExe rest).2, htail] at hexe
      rw [after?_eq_some_iff.1 hrest, CompilerToken.text, List.append_assoc, List.append_assoc,
        ← hexe]

/-- A token at the start of a text is a name from the list, stands in the text as it is, and a
blank character follows it. -/
theorem of_at? {text : List Char} {token : CompilerToken} (h : at? text = some token) :
    token.word ∈ compilerWords ∧
      ∃ blank rest, isBlank blank = true ∧ text = token.text ++ blank :: rest := by
  obtain ⟨word, hword, h⟩ := List.exists_of_findSome?_eq_some h
  obtain ⟨rfl, hstands⟩ := of_named? h
  exact ⟨hword, hstands⟩

end CompilerToken

namespace Compiler

/-- A place is in front of a compiler token when a compiler token follows and no word character
precedes. -/
def isAt (place : Cursor) : Bool :=
  !startsWithWordChar place.before && (CompilerToken.at? place.after).isSome

/-- The first place of the line in front of a compiler token. -/
def find? (line : List Char) : Option Cursor :=
  Cursor.first? isAt line

end Compiler

end CompileCommands
