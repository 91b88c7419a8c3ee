import CompileCommands.Command.Compilation
import CompileCommands.Proofs.Command.Chaining
import CompileCommands.Proofs.Text.Searches

/-!
# The command around a compiler

A line that runs a compiler is taken apart at the place in front of the compiler. To the left stands
what the segment around the place begins with, to the right the compiler token and its arguments.
The command is the segment up to its first chaining operator. So there are two cases. If no operator
stands ahead of the compiler, the command begins with what stands ahead of it and goes on with the
compiler. If one does, the command ends there, in front of the compiler. Only a quoted line can have
an operator ahead of its compiler, since any other segment begins behind the last operator.

## Main definitions

* `Invocation`: a compiler in a line, and what the segment around it begins with.

## Main results

* `Invocation.segment_eq_append`: the segment around a compiler.
* `Invocation.unchain_segment_of_not_isChained`, `Invocation.unchain_segment_of_isChained`: the
  command in the two cases.
* `Invocation.not_isChained_ahead`: the second case is about quoted lines only.
-/

namespace CompileCommands

open Text
open Chaining (IsChained front)

namespace Segment

/-- The segment around a place begins to the left of the place, and what stands in between holds no
place at which it might have begun. -/
theorem exists_between (place : Cursor) :
    ∃ between, place.before = between ++ (begin place).before ∧
      (begin place).after = between.reverse ++ place.after ∧
      ∀ near c far, between = near ++ c :: far →
        (if isQuoted place then isOpening else isBehindSeparator)
          ⟨c :: far ++ (begin place).before, near.reverse ++ place.after⟩ = false := by
  cases h : place.last? (if isQuoted place then isOpening else isBehindSeparator) with
  | none =>
    have hbegin : begin place = Cursor.start place.text := by simp [begin, h]
    rw [hbegin]
    refine ⟨place.before, (List.append_nil _).symm, rfl, fun near c far heq => ?_⟩
    simpa [Cursor.start] using Cursor.not_of_recede?_eq_none h near c far heq
  | some found =>
    have hbegin : begin place = found := by simp [begin, h]
    rw [hbegin]
    exact Cursor.exists_between_of_recede? h

/-- Unless the line is quoted, no separator stands between the beginning of a segment and its
place. -/
theorem isSeparator_eq_false {place : Cursor} {ahead : List Char}
    (h : (begin place).after = ahead ++ place.after) (hquoted : isQuoted place = false) :
    ∀ c ∈ ahead, isSeparator c = false := by
  obtain ⟨between, -, hafter, hpassed⟩ := exists_between place
  rw [hafter, List.append_cancel_right_eq] at h
  intro c hc
  obtain ⟨near, far, heq⟩ := List.append_of_mem (List.mem_reverse.1 (h ▸ hc))
  simpa [hquoted, isBehindSeparator] using hpassed near c far heq

end Segment

namespace CompilerToken

/-- A token has characters, and none of them is blank, a semicolon or an ampersand. -/
theorem plain_text {token : CompilerToken} (h : token.word ∈ compilerWords) :
    token.text ≠ [] ∧ ∀ c ∈ token.text, isBlank c = false ∧ c ≠ ';' ∧ c ≠ '&' := by
  -- `List.all` and not a quantifier: the latter may be decided by going through all characters
  have hall : ∀ word ∈ compilerWords, ∀ hasExe hasQuote,
      (CompilerToken.mk word hasExe hasQuote).text ≠ [] ∧
        (CompilerToken.mk word hasExe hasQuote).text.all
          fun c => isBlank c = false ∧ c ≠ ';' ∧ c ≠ '&' := by decide
  obtain ⟨hne, hplain⟩ := hall token.word h token.hasExe token.hasQuote
  exact ⟨hne, fun c hc => of_decide_eq_true (List.all_eq_true.1 hplain c hc)⟩

/-- A name of a compiler is not empty. -/
theorem toList_word_ne_nil {token : CompilerToken} (h : token.word ∈ compilerWords) :
    token.word.toList ≠ [] := by
  have hall : ∀ word ∈ compilerWords, word.toList ≠ [] := by decide
  exact hall token.word h

/-- A token begins with the name of its compiler. -/
theorem isPrefix_text (token : CompilerToken) : token.word.toList <+: token.text := by
  rw [text, List.append_assoc]
  exact List.prefix_append _ _

end CompilerToken

/-- A compiler in a line: the first place in front of a compiler token, the token, and what stands
between the beginning of the segment around the place and the place. -/
structure Invocation (line : List Char) where
  /-- The place in front of the compiler. -/
  place : Cursor
  /-- The compiler as it stands in the line. -/
  token : CompilerToken
  /-- What the segment begins with. -/
  ahead : List Char
  /-- The place is the first one in front of a compiler token. -/
  find?_eq : Compiler.find? line = some place
  /-- The token stands behind the place. -/
  at?_eq : CompilerToken.at? place.after = some token
  /-- The segment begins with what stands ahead of the place. -/
  after_begin : (Segment.begin place).after = ahead ++ place.after

namespace Invocation

/-- A line in which a compiler is found runs it. -/
theorem exists_of_find? {line : List Char} {place : Cursor} (h : Compiler.find? line = some place) :
    ∃ invocation : Invocation line, invocation.place = place := by
  have hat := Cursor.holds_of_first? h
  rw [Compiler.isAt, Bool.and_eq_true] at hat
  obtain ⟨token, htoken⟩ := Option.isSome_iff_exists.1 hat.2
  obtain ⟨between, -, hafter, -⟩ := Segment.exists_between place
  exact ⟨⟨place, token, between.reverse, h, htoken, hafter⟩, rfl⟩

variable {line : List Char} (invocation : Invocation line)

theorem word_mem : invocation.token.word ∈ compilerWords :=
  (CompilerToken.of_at? invocation.at?_eq).1

theorem plain_text : invocation.token.text ≠ [] ∧
    ∀ c ∈ invocation.token.text, isBlank c = false ∧ c ≠ ';' ∧ c ≠ '&' :=
  CompilerToken.plain_text invocation.word_mem

/-- No character of the token is blank. -/
theorem isBlank_eq_false : ∀ c ∈ invocation.token.text, isBlank c = false :=
  fun c hc => (invocation.plain_text.2 c hc).1

/-- What stands ahead of the compiler in its segment stands to the left of it in the line. -/
theorem left_begin_append_ahead :
    (Segment.begin invocation.place).left ++ invocation.ahead = invocation.place.left := by
  have hbegin := Segment.text_begin invocation.place
  rwa [Cursor.text, invocation.after_begin, ← List.append_assoc, Cursor.text,
    List.append_cancel_right_eq] at hbegin

/-- The segment around a compiler is trimmed at its start ahead of the compiler, and at its end
behind it. -/
theorem segment_eq_append :
    segment invocation.place = trimStart invocation.ahead ++ trimEnd invocation.place.after := by
  obtain ⟨-, blank, rest, -, hafter⟩ := CompilerToken.of_at? invocation.at?_eq
  have hne := invocation.plain_text.1
  rw [segment, invocation.after_begin, hafter, trimEnd_append hne invocation.isBlank_eq_false,
    ← List.append_assoc, trim_append_append hne invocation.isBlank_eq_false, List.append_assoc]

/-- The command is the segment up to its first operator, however the segment is trimmed. -/
theorem unchain_segment : unchain (segment invocation.place) =
    trim (front (invocation.ahead ++ invocation.place.after)) := by
  rw [segment, invocation.after_begin, Chaining.unchain_trim, Chaining.unchain_eq_trim_front]

/-- The compiler stands in front of any operator behind it. -/
theorem exists_front_after :
    ∃ more, front invocation.place.after = invocation.token.text ++ more := by
  obtain ⟨-, blank, rest, -, hafter⟩ := CompilerToken.of_at? invocation.at?_eq
  refine ⟨front (blank :: rest), ?_⟩
  rw [hafter, Chaining.front_append_of_forall fun c hc => (invocation.plain_text.2 c hc).2]

/-- If no operator stands ahead of the compiler, the command is what stands ahead of the compiler,
and what stands behind it up to the first operator. -/
theorem unchain_segment_eq_trim (h : ¬ IsChained invocation.ahead) :
    unchain (segment invocation.place) =
      trim (invocation.ahead ++ front invocation.place.after) := by
  have hmeet : invocation.ahead.getLast? = some '&' →
      invocation.place.after.head? ≠ some '&' := by
    intro _ hhead
    obtain ⟨hne, hplain⟩ := invocation.plain_text
    obtain ⟨-, blank, rest, -, hafter⟩ := CompilerToken.of_at? invocation.at?_eq
    obtain ⟨first, others, heq⟩ := List.exists_cons_of_ne_nil hne
    rw [hafter, heq, List.cons_append, List.head?_cons, Option.some_inj] at hhead
    exact (hplain first (heq ▸ List.mem_cons_self)).2.2 hhead
  rw [invocation.unchain_segment, Chaining.front_append_of_not_isChained h hmeet]

/-- If no operator stands ahead of the compiler, the command begins with what stands ahead of the
compiler and goes on with the compiler. -/
theorem unchain_segment_of_not_isChained (h : ¬ IsChained invocation.ahead) :
    ∃ more, unchain (segment invocation.place) =
      trimStart invocation.ahead ++ invocation.token.text ++ more := by
  obtain ⟨more, hfront⟩ := invocation.exists_front_after
  refine ⟨trimEnd more, ?_⟩
  rw [invocation.unchain_segment_eq_trim h, hfront, ← List.append_assoc,
    trim_append_append invocation.plain_text.1 invocation.isBlank_eq_false]

/-- If an operator stands ahead of the compiler, the command ends in front of the compiler. -/
theorem unchain_segment_of_isChained (h : IsChained invocation.ahead) :
    unchain (segment invocation.place) = unchain invocation.ahead := by
  rw [invocation.unchain_segment, Chaining.front_append_of_isChained h,
    ← Chaining.unchain_eq_trim_front]

/-- Unless the line is quoted, no chaining operator stands ahead of the compiler. -/
theorem not_isChained_ahead (h : Segment.isQuoted invocation.place = false) :
    ¬ IsChained invocation.ahead := by
  refine Chaining.not_isChained_of_forall fun c hc => ?_
  have hseparator := Segment.isSeparator_eq_false invocation.after_begin h c hc
  constructor <;> rintro rfl <;> exact absurd hseparator (by decide)

end Invocation

end CompileCommands
