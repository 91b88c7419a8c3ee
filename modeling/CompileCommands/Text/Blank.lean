import CompileCommands.Text.CodePoints

/-!
# Blank characters and trimming

A character is blank when it has the Unicode property White_Space. Build output is trimmed and
taken apart at blank characters, so that a line indented by tabs or by an ideographic space reads
like the same line at the margin.

## Main definitions

* `isBlank`: the property White_Space.
* `trimStart`, `trimEnd`, `trim`: a text without the blank characters at its ends.

## Main results

* `isBlank_of_isWhitespace`: the blank characters include the ASCII ones known to `Char`.
* `trimEnd_eq_reverse`: trimming at the end is trimming the reversed text at the start.
* `isBlank_head_trimStart`: a trimmed text does not start with a blank character.
-/

namespace CompileCommands.Text

/-- The code points with the property White_Space. -/
def blankRanges : CodePoints where
  ranges :=
    [(0x9, 0xd), (0x20, 0x20), (0x85, 0x85), (0xa0, 0xa0), (0x1680, 0x1680), (0x2000, 0x200a),
      (0x2028, 0x2029), (0x202f, 0x202f), (0x205f, 0x205f), (0x3000, 0x3000)]

/-- A blank character has the property White_Space. -/
def isBlank (c : Char) : Bool :=
  blankRanges.contains c

/-- The text from its first character that is not blank. -/
def trimStart (text : List Char) : List Char :=
  text.dropWhile isBlank

/-- The text up to its last character that is not blank. -/
def trimEnd (text : List Char) : List Char :=
  (text.reverse.dropWhile isBlank).reverse

/-- The text from its first to its last character that is not blank. -/
def trim (text : List Char) : List Char :=
  trimEnd (trimStart text)

/-- A text without any character but blank ones. -/
def isAllBlank (text : List Char) : Bool :=
  text.all isBlank

@[simp] theorem trimStart_nil : trimStart [] = [] := rfl

@[simp] theorem trimEnd_nil : trimEnd [] = [] := rfl

@[simp] theorem trim_nil : trim [] = [] := rfl

/-- Trimming at the end is trimming the reversed text at the start. -/
theorem trimEnd_eq_reverse (text : List Char) :
    trimEnd text = (trimStart text.reverse).reverse := rfl

/-- A trimmed text does not start with a blank character. -/
theorem isBlank_head_trimStart {text rest : List Char} {c : Char}
    (h : trimStart text = c :: rest) : isBlank c = false := by
  have hhead := List.head?_dropWhile_not isBlank text
  rw [trimStart] at h
  simpa [h] using hhead

/-- The blank characters include every character that `Char.isWhitespace` knows. -/
theorem isBlank_of_isWhitespace {c : Char} (h : c.isWhitespace = true) : isBlank c = true := by
  simp only [Char.isWhitespace, Bool.or_eq_true, decide_eq_true_eq] at h
  rcases h with ((rfl | rfl) | rfl) | rfl <;> decide

end CompileCommands.Text
