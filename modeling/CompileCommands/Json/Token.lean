import CompileCommands.Json.Number
import CompileCommands.Json.Quoted
import CompileCommands.Text.Start

/-!
# Tokens of JSON

A JSON text is a sequence of tokens with any number of spaces, tabs, line feeds and carriage
returns around them. This file takes a text apart into its tokens; how tokens make up values is
the matter of `CompileCommands.Json.Value`.

## Main definitions

* `Json.Token`: a token.
* `Json.Token.next?`: the token at the start of a text.
* `Json.tokens?`: the tokens of a text.
-/

namespace CompileCommands.Json

open Text

/-- A token of a JSON text. -/
inductive Token where
  | openArray
  | closeArray
  | openObject
  | closeObject
  | colon
  | comma
  | null
  | bool (value : Bool)
  | number (written : List Char)
  | text (pieces : List Piece)
  deriving DecidableEq, Repr

/-- The characters that may stand between tokens. -/
def isSpace (c : Char) : Bool :=
  c == ' ' || c == '\t' || c == '\n' || c == '\r'

namespace Token

/-- The token that a single character is. -/
def ofChar? : Char → Option Token
  | '[' => some .openArray
  | ']' => some .closeArray
  | '\x7b' => some .openObject
  | '\x7d' => some .closeObject
  | ':' => some .colon
  | ',' => some .comma
  | _ => none

/-- The tokens that are words, with their words. -/
def words : List (String × Token) :=
  [("null", .null), ("true", .bool true), ("false", .bool false)]

/-- The word at the start of the text, and what follows it. -/
def word? (text : List Char) : Option (Token × List Char) :=
  words.findSome? fun (word, token) => (after? word.toList text).map (token, ·)

/-- The token at the start of the text, and what follows it. -/
def next? (text : List Char) : Option (Token × List Char) :=
  match text with
  | [] => none
  | c :: rest =>
    match ofChar? c with
    | some token => some (token, rest)
    | none =>
      if c = '"' then (readQuoted? rest).map fun (pieces, rest) => (.text pieces, rest)
      else (word? text).or ((readNumber? text).map fun (written, rest) => (.number written, rest))

private theorem length_word? {text rest : List Char} {token : Token}
    (h : word? text = some (token, rest)) : rest.length < text.length := by
  obtain ⟨⟨word, _⟩, hmem, h⟩ := List.exists_of_findSome?_eq_some h
  simp only [Option.map_eq_some_iff, Prod.mk.injEq] at h
  obtain ⟨_, hafter, _, rfl⟩ := h
  have hpos : 0 < word.toList.length := by
    simp only [words, List.mem_cons, Prod.mk.injEq, List.not_mem_nil, or_false] at hmem
    rcases hmem with ⟨rfl, _⟩ | ⟨rfl, _⟩ | ⟨rfl, _⟩ <;> decide
  rw [after?_eq_some_iff.1 hafter, List.length_append]
  omega

/-- A token takes up part of the text. -/
theorem length_next? {text rest : List Char} {token : Token} (h : next? text = some (token, rest)) :
    rest.length < text.length := by
  unfold next? at h
  split at h
  case h_1 => simp at h
  case h_2 c tail =>
    split at h
    case h_1 =>
      cases h
      simp
    case h_2 =>
      split at h
      case isTrue =>
        simp only [Option.map_eq_some_iff, Prod.mk.injEq] at h
        obtain ⟨_, hread, _, rfl⟩ := h
        have := length_readQuoted? hread
        simp only [List.length_cons]
        omega
      case isFalse =>
        rcases Option.or_eq_some_iff.1 h with hword | ⟨_, hnumber⟩
        · exact length_word? hword
        · simp only [Option.map_eq_some_iff, Prod.mk.injEq] at hnumber
          obtain ⟨_, hread, _, rfl⟩ := hnumber
          exact length_readNumber? hread

end Token

/-- The tokens of a text. -/
def tokens? : List Char → Option (List Token)
  | [] => some []
  | c :: rest =>
    if isSpace c then tokens? rest
    else
      match h : Token.next? (c :: rest) with
      | none => none
      | some (token, rest) =>
        have := Token.length_next? h
        (tokens? rest).map (token :: ·)
termination_by text => text.length
decreasing_by
  · simp
  · assumption

end CompileCommands.Json
