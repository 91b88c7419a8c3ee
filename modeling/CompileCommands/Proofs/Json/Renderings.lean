import CompileCommands.Proofs.Json.Escapes
import CompileCommands.Proofs.Json.Numbers
import CompileCommands.Proofs.Json.Spelling
import CompileCommands.Proofs.Json.Values
import Mathlib.Data.List.Chain

/-!
# The ways to write a value

A value is written as its tokens in a row, with any spaces, tabs, line feeds and carriage returns
around them. Each token is written in one of its own ways: a text with its characters raw or
escaped, a number as the grammar of numbers has it, all others in the one way they have. However a
value is written, it is read as that value.

Only a number could be continued by what stands behind it. In a value this never happens, since a
number is followed by a comma or by the end of an array or object, if by any token at all.

## Main definitions

* `Json.Token.Written`: the ways to write a token.
* `Json.Renders`: the ways to write several tokens.
* `Json.MayPrecede`: a token whose successor does not continue it.

## Main results

* `Json.tokens?_of_renders`: the tokens are read from what is written.
* `Json.Value.isChain_tokens`: no token of a value continues the one before it.
* `Json.parse?_of_renders`: a value is read from what is written.
-/

namespace CompileCommands.Json

open Text

namespace Token

/-- The ways to write a token. -/
inductive Written : Token → List Char → Prop
  | openArray : Written .openArray ['[']
  | closeArray : Written .closeArray [']']
  | openObject : Written .openObject ['\x7b']
  | closeObject : Written .closeObject ['\x7d']
  | colon : Written .colon [':']
  | comma : Written .comma [',']
  | null : Written .null ['n', 'u', 'l', 'l']
  | true : Written (.bool true) ['t', 'r', 'u', 'e']
  | false : Written (.bool false) ['f', 'a', 'l', 's', 'e']
  | number {written : List Char} (h : IsNumber written) : Written (.number written) written
  | text {pieces : List Piece} {content : List Char} (h : Content pieces content) :
      Written (.text pieces) ('"' :: (content ++ ['"']))

/-- The token is a number. -/
def isNumber : Token → Bool
  | .number _ => Bool.true
  | _ => Bool.false

/-- The token goes on with an array or object, or ends it. -/
def isMark : Token → Bool
  | .comma | .closeArray | .closeObject => Bool.true
  | _ => Bool.false

end Token

/-- The ways to write several tokens, with spaces around them. -/
inductive Renders : List Token → List Char → Prop
  | nil {space : List Char} (hspace : space.all isSpace = true) : Renders [] space
  | cons {space : List Char} {token : Token} {written : List Char} {tokens : List Token}
      {rest : List Char} (hspace : space.all isSpace = true) (hwritten : token.Written written)
      (hrest : Renders tokens rest) : Renders (token :: tokens) (space ++ (written ++ rest))

/-- The second token cannot be taken for a continuation of the first. -/
def MayPrecede (first second : Token) : Prop :=
  first.isNumber = true → second.isMark = true

/-! ### Reading tokens -/

private theorem endsNumber_of_isSpace {space : List Char} (h : space.all isSpace = true)
    {rest : List Char} (hrest : EndsNumber rest) : EndsNumber (space ++ rest) := by
  cases space with
  | nil => exact hrest
  | cons c space =>
    intro first hfirst
    obtain rfl : c = first := Option.some_inj.1 hfirst
    rw [List.all_cons, Bool.and_eq_true] at h
    simp only [isSpace, Bool.or_eq_true, beq_iff_eq] at h
    rcases h.1 with ((rfl | rfl) | rfl) | rfl <;> decide

/-- What is written for a comma or for the end of an array or object cannot continue a number. -/
private theorem endsNumber_of_isMark {token : Token} (hmark : token.isMark = true)
    {written : List Char}
    (h : token.Written written) (rest : List Char) : EndsNumber (written ++ rest) := by
  intro c hc
  cases h with
  | comma | closeArray | closeObject =>
    cases hc
    decide
  | _ => cases hmark

private theorem ne_of_startsNumber {first c : Char} (hfirst : first.isDigit = true ∨ first = '-')
    (hc : ¬ (c.isDigit = true ∨ c = '-')) : c ≠ first := by
  rintro rfl
  exact hc hfirst

/-- A number is the token at the start of the text, in front of anything that cannot continue it. -/
theorem next?_number {number rest : List Char} (h : IsNumber number) (hrest : EndsNumber rest) :
    Token.next? (number ++ rest) = some (.number number, rest) := by
  have hread := readNumber?_append h hrest
  obtain ⟨first, others, rfl, hfirst⟩ := h.exists_cons
  have hchar : Token.ofChar? first = none := by
    unfold Token.ofChar?
    split <;> first | rfl | exact absurd rfl (ne_of_startsNumber hfirst (by decide))
  have hquote : first ≠ '"' := (ne_of_startsNumber hfirst (by decide)).symm
  have hword : Token.word? (first :: (others ++ rest)) = none := by
    have hn : 'n' ≠ first := ne_of_startsNumber hfirst (by decide)
    have ht : 't' ≠ first := ne_of_startsNumber hfirst (by decide)
    have hf : 'f' ≠ first := ne_of_startsNumber hfirst (by decide)
    simp [Token.word?, Token.words, after?, hn, ht, hf]
  rw [List.cons_append] at hread ⊢
  rw [Token.next?, hchar]
  show (if first = '"' then _ else _) = _
  rw [if_neg hquote, hword, hread]
  rfl

/-- A token is the one at the start of the text, however it is written. -/
theorem next?_of_written {token : Token} {written : List Char} (h : token.Written written)
    {rest : List Char} (hrest : token.isNumber = true → EndsNumber rest) :
    Token.next? (written ++ rest) = some (token, rest) := by
  cases h with
  | openArray | closeArray | openObject | closeObject | colon | comma => rfl
  | null | true | false => rfl
  | number h => exact next?_number h (hrest rfl)
  | text h =>
    rw [List.cons_append, List.append_assoc]
    show (readQuoted? (_ ++ '"' :: rest)).map _ = _
    rw [readQuoted?_of_content h]
    rfl

/-- A token begins with a character that is no space. -/
private theorem exists_cons_of_written {token : Token} {written : List Char}
    (h : token.Written written) :
    ∃ first others, written = first :: others ∧ isSpace first = false := by
  cases h with
  | number h =>
    obtain ⟨first, others, rfl, hfirst⟩ := h.exists_cons
    refine ⟨first, others, rfl, ?_⟩
    by_contra hspace
    simp only [isSpace, Bool.not_eq_false, Bool.or_eq_true, beq_iff_eq] at hspace
    rcases hspace with ((rfl | rfl) | rfl) | rfl <;> revert hfirst <;> decide
  | _ => exact ⟨_, _, rfl, rfl⟩

/-- What is written behind a number does not continue it. -/
theorem Renders.endsNumber {tokens : List Token} {text : List Char} (h : Renders tokens text)
    (hmark : ∀ next ∈ tokens.head?, next.isMark = true) : EndsNumber text := by
  have hnil : EndsNumber [] := fun c hc => nomatch hc
  cases h with
  | nil hspace =>
    rw [← List.append_nil text]
    exact endsNumber_of_isSpace hspace hnil
  | cons hspace hwritten hrest =>
    exact endsNumber_of_isSpace hspace (endsNumber_of_isMark (hmark _ rfl) hwritten _)

/-- **Tokens are read however they are written.** -/
theorem tokens?_of_renders {tokens : List Token} {text : List Char} (h : Renders tokens text)
    (hchain : tokens.IsChain MayPrecede) : tokens? text = some tokens := by
  induction h with
  | nil hspace => exact (spells_of_isSpace hspace).tokens?_eq
  | @cons space token written tokens rest hspace hwritten hrest ih =>
    have hends : token.isNumber = true → EndsNumber rest := fun hnumber =>
      hrest.endsNumber fun next hnext => (List.isChain_cons.1 hchain).1 next hnext hnumber
    have hnext := next?_of_written hwritten hends
    obtain ⟨first, others, rfl, hfirst⟩ := exists_cons_of_written hwritten
    rw [List.cons_append] at hnext ⊢
    rw [spells_of_isSpace hspace, tokens?_cons_of_next? hfirst hnext,
      ih (List.isChain_cons.1 hchain).2]
    rfl

/-! ### The tokens of a value -/

/-- Tokens that may stand behind any value. -/
structure MayFollow (tokens : List Token) : Prop where
  /-- None of them continues the one before it. -/
  isChain : tokens.IsChain MayPrecede
  /-- The first of them continues nothing. -/
  isMark : ∀ next ∈ tokens.head?, next.isMark = true

theorem isChain_cons_of_not_isNumber {first : Token} (hfirst : first.isNumber = false)
    {tokens : List Token} (h : tokens.IsChain MayPrecede) :
    (first :: tokens).IsChain MayPrecede := by
  refine List.isChain_cons.2 ⟨fun _ _ hnumber => ?_, h⟩
  rw [hfirst] at hnumber
  cases hnumber

theorem MayFollow.cons {mark : Token} (hmark : mark.isMark = true) {tokens : List Token}
    (h : tokens.IsChain MayPrecede) : MayFollow (mark :: tokens) := by
  refine ⟨isChain_cons_of_not_isNumber ?_ h, fun next hnext => Option.some_inj.1 hnext ▸ hmark⟩
  cases mark with
  | number => cases hmark
  | _ => rfl

/-- A token may stand in front of what may follow a value. -/
theorem MayFollow.isChain_cons {tokens : List Token} (h : MayFollow tokens) (first : Token) :
    (first :: tokens).IsChain MayPrecede :=
  List.isChain_cons.2 ⟨fun next hnext _ => h.isMark next hnext, h.isChain⟩

namespace Value

mutual

/-- No token of a value continues the one before it, and what follows does not continue the last. -/
theorem isChain_tokens_append (value : Value) {rest : List Token} (hrest : MayFollow rest) :
    (value.tokens ++ rest).IsChain MayPrecede := by
  match value with
  | .null | .bool _ | .number _ | .text _ => exact hrest.isChain_cons _
  | .array [] =>
    exact isChain_cons_of_not_isNumber rfl (hrest.isChain_cons _)
  | .array (first :: items) =>
    rw [tokens, List.append_assoc, List.append_assoc]
    refine isChain_cons_of_not_isNumber rfl ?_
    exact isChain_tokens_append first
      (mayFollow_laterItems items (.cons rfl hrest.isChain))
  | .object [] =>
    exact isChain_cons_of_not_isNumber rfl (hrest.isChain_cons _)
  | .object ((name, first) :: members) =>
    rw [tokens, List.append_assoc, List.append_assoc]
    refine isChain_cons_of_not_isNumber rfl ?_
    refine isChain_cons_of_not_isNumber rfl ?_
    refine isChain_cons_of_not_isNumber rfl ?_
    exact isChain_tokens_append first
      (mayFollow_laterMembers members (.cons rfl hrest.isChain))

private theorem mayFollow_laterItems (items : List Value) {rest : List Token}
    (hrest : MayFollow rest) : MayFollow (laterItems items ++ rest) := by
  match items with
  | [] => exact hrest
  | item :: items =>
    rw [laterItems, List.append_assoc]
    exact .cons rfl (isChain_tokens_append item (mayFollow_laterItems items hrest))

private theorem mayFollow_laterMembers (members : List (List Piece × Value)) {rest : List Token}
    (hrest : MayFollow rest) : MayFollow (laterMembers members ++ rest) := by
  match members with
  | [] => exact hrest
  | (name, member) :: members =>
    rw [laterMembers, List.append_assoc]
    refine .cons rfl ?_
    refine isChain_cons_of_not_isNumber rfl ?_
    refine isChain_cons_of_not_isNumber rfl ?_
    exact isChain_tokens_append member (mayFollow_laterMembers members hrest)

end

/-- No token of a value continues the one before it. -/
theorem isChain_tokens (value : Value) : value.tokens.IsChain MayPrecede := by
  have hnil : MayFollow [] := ⟨.nil, fun _ hnext => nomatch hnext⟩
  have h := value.isChain_tokens_append hnil
  rwa [List.append_nil] at h

end Value

/-- **A value is read however it is written.** -/
theorem parse?_of_renders {value : Value} {text : List Char} (h : Renders value.tokens text) :
    parse? text = some value := by
  rw [parse?, tokens?_of_renders h value.isChain_tokens]
  exact Value.ofTokens?_tokens value

end CompileCommands.Json
