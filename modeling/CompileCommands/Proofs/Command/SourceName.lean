import CompileCommands.Command.SourceName
import CompileCommands.Proofs.Command.Chaining
import Mathlib.Data.List.Infix

/-!
# Names of source files and the ends of a text

A name ends where a character stands that belongs to no name. At such a character a text may be cut
without a change to the names in it. So the first source file of a command is the first one of what
stands in front of such a character, or else the first one of what stands behind it, and blank
characters around a command make no difference to the source files it names.

## Main results

* `SourceName.find?_append_cons`: the first source file of a text with a cut in it.
* `SourceName.find?_trim`: the margins of a command.
* `SourceName.isInfix_of_find?`: a source file stands in the command that names it.
* `SourceName.find?_unchain`, `SourceName.find?_front`: the first source file of a command with
  chained commands.
-/

namespace CompileCommands

open Text

/-- Blank characters are not word characters. -/
theorem isWordChar_of_isBlank {c : Char} (h : isBlank c = true) : isWordChar c = false := by
  by_cases hascii : c.toNat < 0x80
  · have hall : ∀ n < 0x80, isBlank (Char.ofNat n) = true → isWordChar (Char.ofNat n) = false := by
      decide
    simpa using hall c.toNat hascii (by simpa using h)
  · -- the ranges of one class and those of the other lie apart
    have hapart : ∀ blank ∈ blankRanges.ranges, ∀ word ∈ wordRanges.ranges,
        blank.2 < word.1 ∨ word.2 < blank.1 := by decide +kernel
    obtain ⟨blank, hblank, hfirst, hlast⟩ := CodePoints.contains_iff.1 h
    rw [isWordChar, if_neg hascii, Bool.eq_false_iff, ne_eq, CodePoints.contains_iff]
    rintro ⟨word, hword, hfirst', hlast'⟩
    rcases hapart blank hblank word hword with hlt | hlt <;> omega

/-- Blank characters belong to no name. -/
theorem isNameChar_of_isBlank {c : Char} (h : isBlank c = true) : isNameChar c = false := by
  have hne : ∀ other, isBlank other = false → c ≠ other := by
    rintro other hother rfl
    exact Bool.false_ne_true (hother.symm.trans h)
  simp [isNameChar, isWordChar_of_isBlank h, hne '.' (by decide), hne '/' (by decide),
    hne '+' (by decide), hne '-' (by decide)]

namespace SourceName

private theorem find?_nil : find? [] = none := rfl

/-- At a character that belongs to no name a text may be cut: its first source file is the first one
in front of the cut, or else the first one behind it. -/
theorem find?_append_cons {c : Char} (h : isNameChar c = false) (text rest : List Char) :
    find? (text ++ c :: rest) = (find? text).or (find? rest) := by
  rw [find?, names, List.splitOnP_append_cons text rest (by simp [h]), List.findSome?_append]
  rfl

/-- Where no character belongs to a name no source file is named. -/
theorem find?_of_forall {text : List Char} (h : ∀ c ∈ text, isNameChar c = false) :
    find? text = none := by
  induction text with
  | nil => rfl
  | cons c text ih =>
    have hrest := ih fun other hother => h other (List.mem_cons_of_mem c hother)
    rw [← List.nil_append (c :: text), find?_append_cons (h c List.mem_cons_self), hrest]
    rfl

/-- Characters behind a text that belong to no name make no difference. -/
theorem find?_append_of_forall {back : List Char} (h : ∀ c ∈ back, isNameChar c = false)
    (text : List Char) : find? (text ++ back) = find? text := by
  cases back with
  | nil => rw [List.append_nil]
  | cons c back =>
    rw [find?_append_cons (h c List.mem_cons_self),
      find?_of_forall fun other hother => h other (List.mem_cons_of_mem c hother), Option.or_none]

/-- Characters in front of a text that belong to no name make no difference. -/
theorem find?_of_forall_append {front : List Char} (h : ∀ c ∈ front, isNameChar c = false)
    (text : List Char) : find? (front ++ text) = find? text := by
  induction front with
  | nil => rfl
  | cons c front ih =>
    have hrest := ih fun other hother => h other (List.mem_cons_of_mem c hother)
    rw [List.cons_append, ← List.nil_append (c :: (front ++ text)),
      find?_append_cons (h c List.mem_cons_self), find?_nil, Option.none_or, hrest]

/-- Margins of a command make no difference to the source files it names. -/
theorem find?_trim (command : List Char) : find? (trim command) = find? command := by
  obtain ⟨front, back, hfront, hback, heq⟩ := exists_margins command
  conv_rhs => rw [heq]
  rw [find?_append_of_forall fun c hc => isNameChar_of_isBlank (hback c hc),
    find?_of_forall_append fun c hc => isNameChar_of_isBlank (hfront c hc)]

/-- The first name of a text begins the text, and the others stand in it. -/
theorem exists_names_eq (text : List Char) :
    ∃ first others, names text = first :: others ∧ first <+: text ∧
      ∀ name ∈ others, name <:+: text := by
  induction text with
  | nil => exact ⟨[], [], rfl, List.nil_prefix, by simp⟩
  | cons c text ih =>
    obtain ⟨first, others, heq, hfirst, hothers⟩ := ih
    rw [names] at heq ⊢
    rw [List.splitOnP_cons_eq_if_modifyHead, heq]
    split
    · refine ⟨[], first :: others, rfl, List.nil_prefix, fun name hname => ?_⟩
      rcases List.mem_cons.1 hname with rfl | hname
      · exact List.infix_cons hfirst.isInfix
      · exact List.infix_cons (hothers name hname)
    · exact ⟨c :: first, others, rfl, List.cons_prefix_cons.2 ⟨rfl, hfirst⟩, fun name hname =>
        List.infix_cons (hothers name hname)⟩

/-- A source file begins the name that it is taken from. -/
theorem isPrefix_of_ofName? {name file : List Char} (h : ofName? name = some file) :
    file <+: name := by
  obtain ⟨place, hplace, rfl⟩ := Option.map_eq_some_iff.1 h
  have htext := Cursor.text_of_last? hplace
  rw [Cursor.text_finish] at htext
  exact ⟨place.after, htext⟩

/-- A source file stands in the command that names it. -/
theorem isInfix_of_find? {command file : List Char} (h : find? command = some file) :
    file <:+: command := by
  obtain ⟨name, hname, hfile⟩ := List.exists_of_findSome?_eq_some h
  obtain ⟨first, others, heq, hfirst, hothers⟩ := exists_names_eq command
  have hstands : name <:+: command := by
    rcases List.mem_cons.1 (heq ▸ hname) with rfl | hname
    · exact hfirst.isInfix
    · exact hothers name hname
  exact (isPrefix_of_ofName? hfile).isInfix.trans hstands

/-! ### Source files in front of a chaining operator -/

/-- Characters of names make up no chaining operator. -/
private theorem exists_cons_of_isAt {text : List Char}
    (h : Chaining.isAt (Cursor.start text) = true) :
    ∃ c rest, text = c :: rest ∧ isNameChar c = false := by
  rcases Chaining.isAt_start_iff.1 h with ⟨rest, rfl⟩ | ⟨rest, rfl⟩
  · exact ⟨';', rest, rfl, by decide⟩
  · exact ⟨'&', '&' :: rest, rfl, by decide⟩

/-- A command without the commands chained to it names the source file that is named first in front
of the first operator. -/
theorem find?_unchain (command : List Char) :
    find? (unchain command) = find? (Chaining.front command) := by
  rw [Chaining.unchain_eq_trim_front, find?_trim]

/-- The first source file of a command is the first one in front of the first operator, if one is
named there. -/
theorem find?_front {command file : List Char} (h : find? command = some file) :
    find? (Chaining.front command) = none ∨ find? (Chaining.front command) = some file := by
  obtain ⟨behind, heq, rfl | hat⟩ := Chaining.exists_behind_front command
  · rw [List.append_nil] at heq
    exact .inr (heq ▸ h)
  · obtain ⟨c, rest, rfl, hc⟩ := exists_cons_of_isAt hat
    rw [heq, find?_append_cons hc] at h
    exact (Option.or_eq_some_iff.1 h).symm.imp (·.1) id

end SourceName

end CompileCommands
