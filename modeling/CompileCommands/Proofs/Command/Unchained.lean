import CompileCommands.Proofs.Command.Extent

/-!
# What is left of a command

A command without the commands chained to it is what stands in front of its first chaining operator,
trimmed. No operator is left in it, and it is not cut a second time. Only blank characters at its
ends are lost, so that a single ampersand stays wherever it stands. And once a text has an operator,
nothing that follows the text makes a difference.

## Main results

* `Chaining.not_isChained_front`: no operator stands in front of the first one.
* `Chaining.unchain_append_of_isChained`: what follows a chained command makes no difference.
* `unchain_in_front_of_first_operator`: what is left of a command.
-/

namespace CompileCommands

open Text

namespace Chaining

/-- An operator in a part of a text stands in the text. -/
theorem IsChained.of_infix {part text : List Char} (h : IsChained part) (hpart : part <:+: text) :
    IsChained text :=
  h.imp (fun hmem => hpart.subset hmem) fun hpair => hpair.trans hpart

private theorem front_prefix (text : List Char) : front text <+: text := by
  obtain ⟨behind, heq, -⟩ := exists_behind_front text
  exact ⟨behind, heq.symm⟩

/-- No operator stands in front of the first one. -/
theorem not_isChained_front (text : List Char) : ¬ IsChained (front text) := by
  induction text with
  | nil => exact not_isChained_nil
  | cons c text ih =>
    cases hat : isAt (Cursor.start (c :: text)) with
    | true =>
      rw [front_cons_of_isAt hat]
      exact not_isChained_nil
    | false =>
      rw [front_cons_of_not_isAt hat, isChained_cons]
      rintro (hfront | hchained)
      · -- an operator at the start of the front stands at the start of the text
        obtain ⟨behind, heq⟩ := front_prefix text
        have htext := isAt_start_append hfront behind
        rw [List.cons_append, heq, hat] at htext
        cases htext
      · exact ih hchained

/-- No operator is left in a command that has been cut off. -/
theorem not_isChained_unchain (command : List Char) : ¬ IsChained (unchain command) := by
  obtain ⟨margin, margin', -, -, heq⟩ := exists_margins (front command)
  rw [unchain_eq_trim_front]
  exact fun h => not_isChained_front command (h.of_infix ⟨margin, margin', heq.symm⟩)

/-- A command that is not chained is only trimmed. -/
theorem unchain_of_not_isChained {command : List Char} (h : ¬ IsChained command) :
    unchain command = trim command := by
  rw [unchain_eq_trim_front, front_of_not_isChained h]

/-- A command is not cut a second time. -/
theorem unchain_unchain (command : List Char) : unchain (unchain command) = unchain command := by
  rw [unchain_of_not_isChained (not_isChained_unchain command), unchain_eq_trim_front, trim_trim]

/-- What follows a chained command makes no difference. -/
theorem unchain_append_of_isChained {command : List Char} (h : IsChained command)
    (rest : List Char) : unchain (command ++ rest) = unchain command := by
  rw [unchain_eq_trim_front, unchain_eq_trim_front, front_append_of_isChained h]

/-- The text in front of the first operator ends at the least index at which one begins, or with the
text. -/
private theorem isLeast_byteLength_front (text : List Char) :
    IsLeast (insert (byteLength text) (operators (encodeUtf8 text))) (byteLength (front text)) := by
  have hleast := isLeast_front (Cursor.start text)
  have hall : {i | (Cursor.start text).offset ≤ i ∧ i ∈ operators (encodeUtf8 text)} =
      operators (encodeUtf8 text) := Set.ext fun i => and_iff_right (Nat.zero_le i)
  rwa [Cursor.text_start, hall] at hleast

end Chaining

open Chaining (IsChained operators)

/-- **What is left of a command is the text in front of its first chaining operator, trimmed.**
Nothing of this text is lost but blank characters at its ends. -/
theorem unchain_in_front_of_first_operator (text : List Char) :
    (∃ front behind margin margin', text = front ++ behind ∧
      IsLeast (insert (byteLength text) (operators (encodeUtf8 text))) (byteLength front) ∧
      unchain text = trim front ∧ front = margin ++ unchain text ++ margin' ∧
      (∀ c ∈ margin ++ margin', isBlank c = true) ∧
      (unchain text).count '&' = front.count '&') ∧
    ¬ IsChained (unchain text) ∧
    (∀ c, c ∈ (unchain text).head? ∨ c ∈ (unchain text).getLast? → isBlank c = false) ∧
    unchain (unchain text) = unchain text ∧
    ∀ rest, IsChained text → unchain (text ++ rest) = unchain text := by
  have htrim := Chaining.unchain_eq_trim_front text
  refine ⟨?_, Chaining.not_isChained_unchain text, ?_, Chaining.unchain_unchain text,
    fun rest h => Chaining.unchain_append_of_isChained h rest⟩
  · obtain ⟨behind, heq, -⟩ := Chaining.exists_behind_front text
    obtain ⟨margin, margin', hmargin, hmargin', hfront⟩ := exists_margins (Chaining.front text)
    refine ⟨Chaining.front text, behind, margin, margin', heq,
      Chaining.isLeast_byteLength_front text, htrim, ?_, ?_, ?_⟩
    · rw [htrim, ← hfront]
    · intro c hc
      exact (List.mem_append.1 hc).elim (hmargin c) (hmargin' c)
    · rw [htrim, count_trim (by decide)]
  · rw [htrim]
    rintro c (hhead | hlast)
    · exact isBlank_head?_trim hhead
    · exact isBlank_getLast?_trim hlast

/-- Three ampersands in a row are cut in front of the first, behind a single one that stays, and
a further command does not matter. -/
theorem unchain_in_front_of_three_ampersands :
    IsChained " é & a &&&b;c".toList ∧ unchain " é & a &&&b;c".toList = "é & a".toList ∧
      ¬ IsChained "é & a".toList ∧ unchain "é & a".toList = "é & a".toList ∧
      unchain (" é & a &&&b;c".toList ++ "&& d".toList) = "é & a".toList := by
  have hchained : IsChained " é & a &&&b;c".toList := by decide
  have hcut : unchain " é & a &&&b;c".toList = "é & a".toList := by decide
  obtain ⟨-, hnone, -, hagain, hlater⟩ :=
    unchain_in_front_of_first_operator " é & a &&&b;c".toList
  rw [hcut] at hnone hagain hlater
  exact ⟨hchained, hcut, hnone, hagain, hlater _ hchained⟩

example : unchain "a&;b && c".toList = "a&".toList := by decide

end CompileCommands
