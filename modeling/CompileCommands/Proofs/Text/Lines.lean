import CompileCommands.Text.Lines
import Mathlib.Logic.Relation

/-!
# Lines and carriage returns

Carriage returns may be left out before or after a text is taken apart into lines, and they may
stand anywhere in a text without a trace in its lines.

## Main definitions

* `Text.AddsReturn`: a text with one carriage return more.

## Main results

* `Text.splitOn_flatMap_lineFeed`: lines that are put together with line feeds are found again.
* `Text.lines_eq_map`: the lines of a text are its pieces between line feeds, without returns.
* `Text.lines_append_lineFeed`: the lines of two texts with a line feed between them.
* `Text.withoutReturns_eq_of_eqvGen`: texts that differ in carriage returns only.
-/

namespace CompileCommands.Text

section SplitOn

variable {α : Type} [BEq α] [LawfulBEq α]

/-- What stands in front of a list without the mark goes to the first piece of the list. -/
theorem splitOn_append_of_notMem {mark : α} {front : List α} (h : mark ∉ front) (rest : List α) :
    (front ++ rest).splitOn mark = (rest.splitOn mark).modifyHead (front ++ ·) := by
  induction front with
  | nil => exact (congrFun List.modifyHead_id (rest.splitOn mark)).symm
  | cons c front ih =>
    rw [List.mem_cons, not_or] at h
    have hc : (c == mark) = false := beq_eq_false_iff_ne.2 (Ne.symm h.1)
    rw [List.cons_append, List.splitOn_cons_eq_if_modifyHead, hc, if_neg Bool.false_ne_true,
      ih h.2, List.modifyHead_modifyHead]
    rfl

/-- What stands behind a list without the mark goes to the last piece of the list. -/
theorem exists_splitOn_append (mark : α) (list : List α) :
    ∃ pieces last, list.splitOn mark = pieces ++ [last] ∧
      ∀ back, mark ∉ back → (list ++ back).splitOn mark = pieces ++ [last ++ back] := by
  induction list with
  | nil =>
    refine ⟨[], [], rfl, fun back hback => ?_⟩
    rw [List.nil_append, ← List.append_nil back, splitOn_append_of_notMem hback,
      List.append_nil back]
    exact congrArg (fun last => [last]) (List.append_nil back)
  | cons c list ih =>
    obtain ⟨pieces, last, heq, hback⟩ := ih
    by_cases hc : (c == mark) = true
    · refine ⟨[] :: pieces, last, ?_, fun back hmark => ?_⟩
      · rw [List.splitOn_cons_eq_if_modifyHead, if_pos hc, heq]
        rfl
      · rw [List.cons_append, List.splitOn_cons_eq_if_modifyHead, if_pos hc, hback back hmark]
        rfl
    · cases pieces with
      | nil =>
        refine ⟨[], c :: last, ?_, fun back hmark => ?_⟩
        · rw [List.splitOn_cons_eq_if_modifyHead, if_neg hc, heq]
          rfl
        · rw [List.cons_append, List.splitOn_cons_eq_if_modifyHead, if_neg hc, hback back hmark]
          rfl
      | cons piece pieces =>
        refine ⟨(c :: piece) :: pieces, last, ?_, fun back hmark => ?_⟩
        · rw [List.splitOn_cons_eq_if_modifyHead, if_neg hc, heq]
          rfl
        · rw [List.cons_append, List.splitOn_cons_eq_if_modifyHead, if_neg hc, hback back hmark]
          rfl

end SplitOn

/-! ### Closed lines -/

/-- Lines that are closed by line feeds and hold no others are what their text is split into. -/
theorem splitOn_flatMap_lineFeed {lines : List (List Char)} (h : ∀ line ∈ lines, '\n' ∉ line) :
    (lines.flatMap (· ++ ['\n'])).splitOn '\n' = lines ++ [[]] := by
  induction lines with
  | nil => rfl
  | cons line lines ih =>
    rw [List.forall_mem_cons] at h
    have hline : line.splitOn '\n' = [line] := by
      rw [← List.append_nil line, splitOn_append_of_notMem h.1]
      rfl
    rw [List.flatMap_cons, List.append_assoc, List.singleton_append, List.splitOn_append_cons_self,
      hline, ih h.2]
    rfl

/-- Lines that are closed by line feeds and hold no others are as many as the line feeds. -/
theorem count_flatMap_lineFeed {lines : List (List Char)} (h : ∀ line ∈ lines, '\n' ∉ line) :
    (lines.flatMap (· ++ ['\n'])).count '\n' = lines.length := by
  induction lines with
  | nil => rfl
  | cons line lines ih =>
    rw [List.forall_mem_cons] at h
    rw [List.flatMap_cons, List.count_append, List.count_append, List.count_eq_zero_of_not_mem h.1,
      ih h.2, List.length_cons, List.count_singleton_self]
    omega

/-! ### Carriage returns -/

@[simp] theorem withoutReturns_nil : withoutReturns [] = [] := rfl

@[simp] theorem withoutReturns_append (a b : List Char) :
    withoutReturns (a ++ b) = withoutReturns a ++ withoutReturns b :=
  List.filter_append a b

@[simp] theorem withoutReturns_return (text : List Char) :
    withoutReturns ('\r' :: text) = withoutReturns text := rfl

private theorem withoutReturns_cons {c : Char} (h : c ≠ '\r') (text : List Char) :
    withoutReturns (c :: text) = c :: withoutReturns text :=
  List.filter_cons_of_pos (bne_iff_ne.2 h)

/-- Carriage returns may be left out of the pieces between line feeds. -/
theorem lines_eq_map (text : List Char) :
    lines text = (text.splitOn '\n').map withoutReturns := by
  induction text with
  | nil => rfl
  | cons c text ih =>
    rw [lines] at ih ⊢
    by_cases hfeed : c = '\n'
    · subst hfeed
      rw [withoutReturns_cons (by decide), List.splitOn_cons_eq_if_modifyHead,
        List.splitOn_cons_eq_if_modifyHead, if_pos (beq_self_eq_true _),
        if_pos (beq_self_eq_true _), ih]
      rfl
    · have hc : (c == '\n') = false := beq_eq_false_iff_ne.2 hfeed
      rw [List.splitOn_cons_eq_if_modifyHead, hc, if_neg Bool.false_ne_true]
      by_cases hreturn : c = '\r'
      · subst hreturn
        rw [withoutReturns_return, ih]
        cases text.splitOn '\n' <;> rfl
      · rw [withoutReturns_cons hreturn, List.splitOn_cons_eq_if_modifyHead, hc,
          if_neg Bool.false_ne_true, ih]
        cases text.splitOn '\n' with
        | nil => rfl
        | cons first others =>
          rw [List.modifyHead_cons, List.map_cons, List.map_cons, List.modifyHead_cons,
            withoutReturns_cons hreturn]

/-- The lines of two texts with a line feed between them are the lines of both. -/
theorem lines_append_lineFeed (a b : List Char) : lines (a ++ '\n' :: b) = lines a ++ lines b := by
  rw [lines, withoutReturns_append, withoutReturns_cons (by decide), List.splitOn_append_cons_self]
  rfl

/-- A text with one carriage return more. -/
def AddsReturn (text longer : List Char) : Prop :=
  ∃ front back, text = front ++ back ∧ longer = front ++ '\r' :: back

/-- Texts that come from each other by inserting and deleting carriage returns agree without
them. -/
theorem withoutReturns_eq_of_eqvGen {text edited : List Char}
    (h : Relation.EqvGen AddsReturn text edited) :
    withoutReturns text = withoutReturns edited := by
  induction h with
  | rel text longer hadds =>
    obtain ⟨front, back, rfl, rfl⟩ := hadds
    rw [withoutReturns_append, withoutReturns_append, withoutReturns_return]
  | refl => rfl
  | symm _ _ _ ih => exact ih.symm
  | trans _ _ _ _ _ ih₁ ih₂ => exact ih₁.trans ih₂

end CompileCommands.Text
