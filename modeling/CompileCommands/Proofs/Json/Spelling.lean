import CompileCommands.Json.Token

/-!
# Spellings of tokens

A text spells tokens if they are read from it whatever stands behind it. Spellings may be put one
after the other, so the tokens of a long text are found from those of its parts. Numbers have no
spelling in this sense, since a digit behind a number would belong to it.

## Main definitions

* `Json.Spells`: a text from which given tokens are read.

## Main results

* `Json.Spells.append`: spellings in a row.
* `Json.spells_of_isSpace`, `Json.spells_of_ofChar?`, `Json.spells_quote`: the spellings that a
  printed value is made of.
-/

namespace CompileCommands.Json

/-- The tokens of a text without tokens. -/
@[simp] theorem tokens?_nil : tokens? [] = some [] := by
  rw [tokens?]

/-- A space is skipped. -/
theorem tokens?_cons_of_isSpace {c : Char} (h : isSpace c = true) (rest : List Char) :
    tokens? (c :: rest) = tokens? rest := by
  rw [tokens?, if_pos h]

/-- A token is read from the text, and the others are read from what follows it. -/
theorem tokens?_cons_of_next? {c : Char} {text rest : List Char} {token : Token}
    (hspace : isSpace c = false) (h : Token.next? (c :: text) = some (token, rest)) :
    tokens? (c :: text) = (tokens? rest).map (token :: ·) := by
  rw [tokens?, hspace, if_neg Bool.false_ne_true]
  split
  next hnone =>
    rw [h] at hnone
    cases hnone
  next _ _ hsome =>
    rw [h] at hsome
    cases hsome
    rfl

/-- A text spells tokens if they are read from it, whatever stands behind it. -/
def Spells (text : List Char) (tokens : List Token) : Prop :=
  ∀ rest, tokens? (text ++ rest) = (tokens? rest).map (tokens ++ ·)

namespace Spells

variable {text text₁ text₂ : List Char} {tokens tokens₁ tokens₂ : List Token}

/-- The tokens of a spelling with nothing behind it. -/
theorem tokens?_eq (h : Spells text tokens) : tokens? text = some tokens := by
  have hnil := h []
  rwa [List.append_nil, tokens?_nil, Option.map_some, List.append_nil] at hnil

theorem nil : Spells [] [] := by
  intro rest
  exact Option.map_id'.symm

/-- Spellings in a row spell their tokens in a row. -/
theorem append (h₁ : Spells text₁ tokens₁) (h₂ : Spells text₂ tokens₂) :
    Spells (text₁ ++ text₂) (tokens₁ ++ tokens₂) := by
  intro rest
  rw [List.append_assoc, h₁, h₂, Option.map_map]
  congr 1
  funext tokens
  exact (List.append_assoc tokens₁ tokens₂ tokens).symm

end Spells

/-! ### Spellings of single tokens -/

/-- Spaces spell nothing. -/
theorem spells_of_isSpace {text : List Char} (h : text.all isSpace = true) :
    Spells text [] := by
  induction text with
  | nil => exact Spells.nil
  | cons c text ih =>
    rw [List.all_cons, Bool.and_eq_true] at h
    intro rest
    rw [List.cons_append, tokens?_cons_of_isSpace h.1]
    exact ih h.2 rest

private theorem isSpace_of_ofChar? {c : Char} {token : Token} (h : Token.ofChar? c = some token) :
    isSpace c = false := by
  unfold Token.ofChar? at h
  split at h
  all_goals first | rfl | cases h

/-- A character that is a token spells it. -/
theorem spells_of_ofChar? {c : Char} {token : Token} (h : Token.ofChar? c = some token) :
    Spells [c] [token] := by
  intro rest
  refine tokens?_cons_of_next? (isSpace_of_ofChar? h) ?_
  show Token.next? (c :: rest) = some (token, rest)
  rw [Token.next?, h]

/-- A quoted text spells one token. -/
theorem spells_quote (text : List Char) : Spells (quote text) [.text (text.map Piece.ofChar)] := by
  intro rest
  have hquote : quote text ++ rest = '"' :: (text.flatMap escape ++ '"' :: rest) := by
    rw [quote, List.cons_append, List.cons_append, List.append_assoc]
    rfl
  rw [hquote]
  refine tokens?_cons_of_next? rfl ?_
  show (readQuoted? (text.flatMap escape ++ '"' :: rest)).map _ = _
  rw [readQuoted?_quote]
  rfl

end CompileCommands.Json
