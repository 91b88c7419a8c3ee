import CompileCommands.Command.Chaining
import CompileCommands.Proofs.Text.Trimming
import Mathlib.Data.List.Infix

/-!
# Where a chained command is cut off

A command is cut off in front of the first chaining operator that stands in it. The text in front
of that operator is determined from the left: what stands behind the operator makes no difference,
and a text without an operator is passed over as a whole.

## Main definitions

* `Chaining.IsChained`: a text in which a chaining operator stands.
* `Chaining.front`: the text in front of the first chaining operator.

## Main results

* `Chaining.unchain_eq_trim_front`: a command is cut off in front of its first chaining operator.
* `Chaining.front_append_of_isChained`, `Chaining.front_append_of_not_isChained`: the text in front
  of the first chaining operator of two texts in a row.
* `Chaining.unchain_trim`: the margins of a command.
-/

namespace CompileCommands.Chaining

open Text

/-- A chaining operator stands in the text. -/
def IsChained (text : List Char) : Prop :=
  ';' ∈ text ∨ ['&', '&'] <:+: text

instance (text : List Char) : Decidable (IsChained text) :=
  inferInstanceAs (Decidable (_ ∨ _))

/-- The text in front of its first chaining operator. -/
def front : List Char → List Char
  | [] => []
  | c :: text => if isAt (Cursor.start (c :: text)) then [] else c :: front text

/-! ### Chaining operators at the start of a text -/

/-- What stands to the left of a place makes no difference. -/
private theorem isAt_mk (before after : List Char) :
    isAt ⟨before, after⟩ = isAt (Cursor.start after) := rfl

/-- A place is in front of a chaining operator when one of the two stands behind it. -/
theorem isAt_start_iff {text : List Char} :
    isAt (Cursor.start text) = true ↔ [';'] <+: text ∨ ['&', '&'] <+: text := by
  unfold isAt Cursor.start
  split
  next heq =>
    cases heq
    simp
  next heq =>
    cases heq
    simp
  next hsemicolon hampersands =>
    refine iff_of_false Bool.false_ne_true ?_
    rintro (⟨rest, rfl⟩ | ⟨rest, rfl⟩)
    · exact hsemicolon rest rfl
    · exact hampersands rest rfl

/-- An operator stands at the start of a text or behind its first character. -/
theorem isChained_cons {c : Char} {text : List Char} :
    IsChained (c :: text) ↔ isAt (Cursor.start (c :: text)) = true ∨ IsChained text := by
  simp only [isAt_start_iff, IsChained, List.mem_cons, List.infix_cons_iff, List.cons_prefix_cons,
    List.nil_prefix, and_true]
  tauto

/-- What follows an operator makes no difference to it. -/
theorem isAt_start_append {text : List Char} (h : isAt (Cursor.start text) = true)
    (rest : List Char) : isAt (Cursor.start (text ++ rest)) = true := by
  rw [isAt_start_iff] at h ⊢
  exact h.imp (·.trans (List.prefix_append text rest)) (·.trans (List.prefix_append text rest))

/-- What follows a text with two characters makes no difference to whether an operator stands at its
start. -/
theorem isAt_start_cons_cons (c d : Char) (text : List Char) :
    isAt (Cursor.start (c :: d :: text)) = isAt (Cursor.start [c, d]) := by
  rw [Bool.eq_iff_iff, isAt_start_iff, isAt_start_iff]
  simp

theorem not_isChained_nil : ¬ IsChained [] := by decide

/-! ### The text in front of the first operator -/

theorem front_cons_of_isAt {c : Char} {text : List Char}
    (h : isAt (Cursor.start (c :: text)) = true) : front (c :: text) = [] :=
  if_pos h

theorem front_cons_of_not_isAt {c : Char} {text : List Char}
    (h : isAt (Cursor.start (c :: text)) = false) : front (c :: text) = c :: front text :=
  if_neg (Bool.eq_false_iff.1 h)

/-- A search from left to right finds the place behind the text in front of the first operator. -/
theorem seek?_isAt (before after : List Char) :
    ((Cursor.seek? isAt before after).map Cursor.left).getD (before.reverse ++ after) =
      before.reverse ++ front after := by
  induction after generalizing before with
  | nil => rfl
  | cons c after ih =>
    rw [Cursor.seek?, isAt_mk]
    cases h : isAt (Cursor.start (c :: after)) with
    | true => simp [front_cons_of_isAt h, Cursor.left]
    | false => simpa [front_cons_of_not_isAt h] using ih (c :: before)

/-- A command is cut off in front of its first chaining operator. -/
theorem unchain_eq_trim_front (command : List Char) : unchain command = trim (front command) := by
  have hfront := seek?_isAt [] command
  rw [unchain, Cursor.first?]
  cases hfound : Cursor.seek? isAt [] command with
  | none =>
    rw [hfound] at hfront
    exact congrArg trim hfront
  | some place =>
    rw [hfound] at hfront
    exact congrArg trim hfront

/-- A text without an operator stands in front of any operator, unless an ampersand at its end and
one that follows make one. -/
theorem front_append_of_not_isChained {text rest : List Char} (h : ¬ IsChained text)
    (hmeet : text.getLast? = some '&' → rest.head? ≠ some '&') :
    front (text ++ rest) = text ++ front rest := by
  induction text with
  | nil => rfl
  | cons c text ih =>
    rw [isChained_cons, not_or, Bool.not_eq_true] at h
    cases text with
    | nil =>
      have hat : isAt (Cursor.start (c :: rest)) = false := by
        have hsemicolon : c ≠ ';' := by
          rintro rfl
          exact absurd h.1 (by decide)
        rw [Bool.eq_false_iff, ne_eq, isAt_start_iff, List.cons_prefix_cons, List.cons_prefix_cons]
        rintro (⟨rfl, -⟩ | ⟨rfl, others, rfl⟩)
        · exact hsemicolon rfl
        · exact hmeet rfl rfl
      exact front_cons_of_not_isAt hat
    | cons d text =>
      have hat : isAt (Cursor.start (c :: (d :: text ++ rest))) = false := by
        rw [List.cons_append, isAt_start_cons_cons, ← isAt_start_cons_cons c d text]
        exact h.1
      rw [List.cons_append, front_cons_of_not_isAt hat, ih h.2 (by simpa using hmeet)]
      rfl

/-- What stands behind an operator makes no difference to the text in front of the first one. -/
theorem front_append_of_isChained {text : List Char} (h : IsChained text) (rest : List Char) :
    front (text ++ rest) = front text := by
  induction text with
  | nil => exact absurd h not_isChained_nil
  | cons c text ih =>
    cases hat : isAt (Cursor.start (c :: text)) with
    | true =>
      rw [front_cons_of_isAt hat, List.cons_append]
      exact front_cons_of_isAt (isAt_start_append hat rest)
    | false =>
      have htext : IsChained text := by simpa [isChained_cons, hat] using h
      cases text with
      | nil => exact absurd htext not_isChained_nil
      | cons d text =>
        have happend : isAt (Cursor.start (c :: (d :: text ++ rest))) = false := by
          rw [List.cons_append, isAt_start_cons_cons, ← isAt_start_cons_cons c d text]
          exact hat
        rw [front_cons_of_not_isAt hat, ← ih htext, List.cons_append]
        exact front_cons_of_not_isAt happend

/-- A text without an operator is passed over as a whole. -/
theorem front_of_not_isChained {text : List Char} (h : ¬ IsChained text) : front text = text := by
  induction text with
  | nil => rfl
  | cons c text ih =>
    rw [isChained_cons, not_or, Bool.not_eq_true] at h
    rw [front_cons_of_not_isAt h.1, ih h.2]

/-- A text is divided at its first operator, if there is one. -/
theorem exists_behind_front (text : List Char) :
    ∃ behind, text = front text ++ behind ∧
      (behind = [] ∨ isAt (Cursor.start behind) = true) := by
  induction text with
  | nil => exact ⟨[], rfl, .inl rfl⟩
  | cons c text ih =>
    cases hat : isAt (Cursor.start (c :: text)) with
    | true => exact ⟨c :: text, by rw [front_cons_of_isAt hat, List.nil_append], .inr hat⟩
    | false =>
      obtain ⟨behind, heq, hbehind⟩ := ih
      exact ⟨behind, by rw [front_cons_of_not_isAt hat, List.cons_append, ← heq], hbehind⟩

/-! ### Text without semicolons and ampersands -/

section Plain

variable {plain : List Char} (h : ∀ c ∈ plain, c ≠ ';' ∧ c ≠ '&')

include h

/-- A text without semicolons and ampersands is not chained. -/
theorem not_isChained_of_forall : ¬ IsChained plain := by
  rintro (hmem | hpair)
  · exact (h ';' hmem).1 rfl
  · exact (h '&' (hpair.subset List.mem_cons_self)).2 rfl

/-- Such a text stands in front of any operator. -/
theorem front_append_of_forall (text : List Char) : front (plain ++ text) = plain ++ front text :=
  front_append_of_not_isChained (not_isChained_of_forall h) fun hlast =>
    absurd rfl (h '&' (List.mem_of_getLast? hlast)).2

end Plain

/-! ### Blank margins -/

private theorem plain_of_isBlank {margin : List Char} (h : ∀ c ∈ margin, isBlank c = true) :
    ∀ c ∈ margin, c ≠ ';' ∧ c ≠ '&' := by
  intro c hc
  constructor <;> rintro rfl <;> exact absurd (h _ hc) (by decide)

/-- A margin in front of a command makes no difference to where it is cut off. -/
theorem unchain_trimStart (command : List Char) :
    unchain (trimStart command) = unchain command := by
  obtain ⟨margin, hmargin, heq⟩ := exists_margin_trimStart command
  conv_rhs => rw [heq]
  rw [unchain_eq_trim_front, unchain_eq_trim_front,
    front_append_of_forall (plain_of_isBlank hmargin), trim_of_isBlank_append hmargin]

/-- A margin behind a command makes no difference to where it is cut off. -/
theorem unchain_trimEnd (command : List Char) : unchain (trimEnd command) = unchain command := by
  obtain ⟨margin, hmargin, heq⟩ := exists_margin_trimEnd command
  conv_rhs => rw [heq]
  rw [unchain_eq_trim_front, unchain_eq_trim_front]
  by_cases hchained : IsChained (trimEnd command)
  · rw [front_append_of_isChained hchained]
  · have hmeet : (trimEnd command).getLast? = some '&' → margin.head? ≠ some '&' := by
      intro _ hhead
      exact absurd rfl (plain_of_isBlank hmargin '&' (List.mem_of_head? hhead)).2
    rw [front_of_not_isChained hchained, front_append_of_not_isChained hchained hmeet,
      front_of_not_isChained (not_isChained_of_forall (plain_of_isBlank hmargin)),
      trim_append_of_isBlank hmargin]

/-- Margins around a command make no difference to where it is cut off. -/
theorem unchain_trim (command : List Char) : unchain (trim command) = unchain command := by
  rw [trim, unchain_trimEnd, unchain_trimStart]

end CompileCommands.Chaining
