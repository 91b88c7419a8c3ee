import CompileCommands.Command.Compiler
import CompileCommands.Proofs.Text.Searches
import Mathlib.Order.Bounds.Basic

/-!
# Where a compiler token begins

A compiler token begins at a byte offset of a line if a character begins there, no word character
stands in front of it, and behind it stand a name of a compiler, the ending `.exe` or not, a double
quote or not, and a blank character. A token is read by taking its parts whenever they can be taken.
This is never too early: what follows a part that is missing is another part or a blank character,
and all of them begin differently. So every token is read, and the place that is found in a line is
the one with the least offset at which a token begins.

## Main definitions

* `Compiler.BeginsAt`: a compiler token begins at a byte offset of a line.

## Main results

* `CompilerToken.isSome_at?_iff`: exactly the texts that begin with a token are read as such.
* `Compiler.offset_find?_eq_some_iff`: the offset that is found is the least one.
-/

namespace CompileCommands

open Text

namespace CompilerToken

/-! ### Reading a token -/

/-- No ending is taken in front of anything but a dot. -/
private theorem takeExe_of_ne {c : Char} (h : c ≠ '.') (rest : List Char) :
    takeExe (c :: rest) = (false, c :: rest) := by
  have hnone : after? ".exe".toList (c :: rest) = none := if_neg h.symm
  rw [takeExe, hnone]

/-- No quote is taken in front of anything else. -/
private theorem takeQuote_of_ne {c : Char} (h : c ≠ '"') (rest : List Char) :
    takeQuote (c :: rest) = (false, c :: rest) := by
  rw [takeQuote]
  intro other heq
  exact h (List.cons_eq_cons.1 heq).1

section Blank

variable {blank : Char} (h : isBlank blank = true) (rest : List Char)

include h

/-- A blank character is none that a token goes on with. -/
theorem ne_of_isBlank : blank ≠ '.' ∧ blank ≠ '"' := by
  constructor <;> rintro rfl <;> exact absurd h (by decide)

/-- A quote is taken exactly if it is there. -/
theorem takeQuote_append (hasQuote : Bool) :
    takeQuote ((if hasQuote then ['"'] else []) ++ blank :: rest) = (hasQuote, blank :: rest) := by
  cases hasQuote with
  | true => rfl
  | false => exact takeQuote_of_ne (ne_of_isBlank h).2 rest

/-- The ending is taken exactly if it is there. -/
theorem takeExe_append (hasExe hasQuote : Bool) :
    takeExe ((if hasExe then ".exe".toList else []) ++
        ((if hasQuote then ['"'] else []) ++ blank :: rest)) =
      (hasExe, (if hasQuote then ['"'] else []) ++ blank :: rest) := by
  cases hasExe with
  | true => rfl
  | false =>
    cases hasQuote with
    | true => rfl
    | false => exact takeExe_of_ne (ne_of_isBlank h).1 rest

/-- A token is read from its characters. -/
theorem named?_text_append (token : CompilerToken) :
    named? token.word (token.text ++ blank :: rest) = some token := by
  simp only [named?, text, List.append_assoc, after?_append, Option.bind_eq_bind, Option.bind_some,
    takeExe_append h, takeQuote_append h]
  exact if_pos h

end Blank

/-- Exactly the texts that begin with a token, in front of a blank character, are read as such. -/
theorem isSome_at?_iff {text : List Char} :
    (at? text).isSome = true ↔ ∃ token : CompilerToken, token.word ∈ compilerWords ∧
      ∃ blank rest, isBlank blank = true ∧ text = token.text ++ blank :: rest := by
  constructor
  · intro h
    obtain ⟨token, htoken⟩ := Option.isSome_iff_exists.1 h
    exact ⟨token, of_at? htoken⟩
  · rintro ⟨token, hword, blank, rest, hblank, rfl⟩
    rw [at?, List.findSome?_isSome_iff]
    exact ⟨token.word, hword, by rw [named?_text_append hblank]; rfl⟩

end CompilerToken

namespace Compiler

/-- A compiler token begins at a byte offset of a line, at the start of a word. -/
def BeginsAt (line : List Char) (offset : Nat) : Prop :=
  ∃ front back, line = front ++ back ∧ byteLength front = offset ∧
    (∀ c ∈ front.getLast?, isWordChar c = false) ∧
    ∃ token : CompilerToken, token.word ∈ compilerWords ∧
      ∃ blank rest, isBlank blank = true ∧ back = token.text ++ blank :: rest

/-- A token begins at a place exactly if the place is in front of one. -/
theorem isAt_iff {front back : List Char} :
    isAt ⟨front.reverse, back⟩ = true ↔ (∀ c ∈ front.getLast?, isWordChar c = false) ∧
      ∃ token : CompilerToken, token.word ∈ compilerWords ∧
        ∃ blank rest, isBlank blank = true ∧ back = token.text ++ blank :: rest := by
  rw [isAt, Bool.and_eq_true, CompilerToken.isSome_at?_iff, startsWithWordChar, List.head?_reverse]
  refine and_congr_left' ?_
  cases front.getLast? <;> simp

/-- A token begins at the offset of the place that is found. -/
private theorem beginsAt_of_find? {line : List Char} {place : Cursor}
    (h : find? line = some place) : BeginsAt line place.offset := by
  have hat := Cursor.holds_of_first? h
  have htext := Cursor.text_of_first? h
  refine ⟨place.left, place.after, htext.symm, byteLength_reverse _, isAt_iff.1 ?_⟩
  rwa [Cursor.left, List.reverse_reverse]

/-- The offset of the place that is found is the least one at which a token begins. -/
private theorem isLeast_of_find? {line : List Char} {place : Cursor} (h : find? line = some place) :
    IsLeast {offset | BeginsAt line offset} place.offset := by
  refine ⟨beginsAt_of_find? h, ?_⟩
  rintro _ ⟨front, back, rfl, rfl, hbegins⟩
  have htext : (Cursor.mk front.reverse back).text = front ++ back := by
    rw [Cursor.text, List.reverse_reverse]
  simpa [Cursor.offset] using Cursor.offset_le_of_first? h htext (isAt_iff.2 hbegins)

/-- If no place is found, no token begins in the line. -/
private theorem not_beginsAt_of_find?_eq_none {line : List Char} (h : find? line = none)
    (offset : Nat) : ¬ BeginsAt line offset := by
  rintro ⟨front, back, rfl, -, hbegins⟩
  have htext : (Cursor.mk front.reverse back).text = front ++ back := by
    rw [Cursor.text, List.reverse_reverse]
  have hne : back ≠ [] := by
    obtain ⟨-, token, -, blank, rest, -, rfl⟩ := hbegins
    simp
  have hfails := Cursor.not_of_first?_eq_none h htext hne
  rw [isAt_iff.2 hbegins] at hfails
  cases hfails

/-- A character of the line stands behind the place that is found. -/
private theorem offset_lt_of_find? {line : List Char} {place : Cursor}
    (h : find? line = some place) : place.offset < byteLength line := by
  obtain ⟨c, rest, hafter⟩ := List.exists_cons_of_ne_nil (Cursor.after_ne_nil_of_first? h)
  have hpos : 0 < c.utf8Size := c.utf8Size_pos
  rw [← Cursor.text_of_first? h, Cursor.text, Cursor.offset, hafter, byteLength_append,
    byteLength_reverse, byteLength_cons]
  omega

/-- **The offset that is found is the least one at which a token begins.** It lies in front of a
character of the line, and none is found exactly if no token begins anywhere. -/
theorem offset_find?_eq_some_iff (line : List Char) :
    (∀ offset, (find? line).map Cursor.offset = some offset ↔
      IsLeast {offset | BeginsAt line offset} offset) ∧
    (find? line = none ↔ ∀ offset, ¬ BeginsAt line offset) ∧
    (∀ offset, (find? line).map Cursor.offset = some offset →
      offset < byteLength line ∧ (Cursor.at? line offset).isSome = true) := by
  cases h : find? line with
  | none =>
    have hnone := not_beginsAt_of_find?_eq_none h
    refine ⟨fun offset => iff_of_false (by simp) fun hleast => hnone offset hleast.1,
      iff_of_true rfl hnone, by simp⟩
  | some place =>
    have hleast := isLeast_of_find? h
    refine ⟨fun offset => ?_, iff_of_false (by simp) fun hnone => hnone _ hleast.1, ?_⟩
    · rw [Option.map_some, Option.some_inj]
      exact ⟨fun heq => heq ▸ hleast, fun hoffset => hleast.unique hoffset⟩
    · rintro _ ⟨⟩
      refine ⟨offset_lt_of_find? h, ?_⟩
      rw [← Cursor.text_of_first? h, Cursor.at?_offset]
      rfl

end Compiler

end CompileCommands
