import CompileCommands.Json.Number
import Mathlib.Data.List.TakeWhile

/-!
# The ways to write a number

A number is an optional minus sign, an integer without leading zeros, an optional fraction and an
optional exponent. In front of anything that could not belong to it, a number is read to its end.

## Main definitions

* `Json.IsInteger`, `Json.IsFraction`, `Json.IsExponent`, `Json.IsNumber`: the parts of a number,
  and a number.
* `Json.EndsNumber`: a text that cannot continue a number.

## Main results

* `Json.readNumber?_append`: a number is read to its end.
-/

namespace CompileCommands.Json

/-- A digit or more. -/
structure IsDigits (digits : List Char) : Prop where
  /-- There is a digit. -/
  ne_nil : digits ≠ []
  /-- There are digits only. -/
  isDigit : ∀ c ∈ digits, c.isDigit = true

/-- An integer begins with a zero only if it is zero. -/
inductive IsInteger : List Char → Prop
  | zero : IsInteger ['0']
  | digits {digits : List Char} (h : IsDigits digits) (hzero : digits.head? ≠ some '0') :
      IsInteger digits

/-- A fraction, which may be missing. -/
inductive IsFraction : List Char → Prop
  | absent : IsFraction []
  | digits {digits : List Char} (h : IsDigits digits) : IsFraction ('.' :: digits)

/-- An exponent, with or without a sign. It may be missing. -/
inductive IsExponent : List Char → Prop
  | absent : IsExponent []
  | digits {mark : Char} {sign digits : List Char} (hmark : mark = 'e' ∨ mark = 'E')
      (hsign : sign = [] ∨ sign = ['+'] ∨ sign = ['-']) (h : IsDigits digits) :
      IsExponent (mark :: (sign ++ digits))

/-- A number. -/
inductive IsNumber : List Char → Prop
  | mk {sign integer fraction exponent : List Char} (hsign : sign = [] ∨ sign = ['-'])
      (hinteger : IsInteger integer) (hfraction : IsFraction fraction)
      (hexponent : IsExponent exponent) :
      IsNumber (sign ++ (integer ++ (fraction ++ exponent)))

/-- A text that cannot continue a number. -/
def EndsNumber (rest : List Char) : Prop :=
  ∀ c ∈ rest.head?, c.isDigit = false ∧ c ≠ '.' ∧ c ≠ 'e' ∧ c ≠ 'E'

/-! ### What stands at the start of each part -/

theorem IsDigits.exists_cons {digits : List Char} (h : IsDigits digits) :
    ∃ first others, digits = first :: others ∧ first.isDigit = true := by
  obtain ⟨first, others, rfl⟩ := List.exists_cons_of_ne_nil h.ne_nil
  exact ⟨first, others, rfl, h.isDigit first List.mem_cons_self⟩

private theorem IsInteger.exists_cons {integer : List Char} (h : IsInteger integer) :
    ∃ first others, integer = first :: others ∧ first.isDigit = true := by
  cases h with
  | zero => exact ⟨'0', [], rfl, rfl⟩
  | digits h => exact h.exists_cons

/-- A number begins with a digit or with a minus sign. -/
theorem IsNumber.exists_cons {number : List Char} (h : IsNumber number) :
    ∃ first others, number = first :: others ∧ (first.isDigit = true ∨ first = '-') := by
  obtain ⟨hsign, hinteger, -, -⟩ := h
  rcases hsign with rfl | rfl
  · obtain ⟨first, others, rfl, hfirst⟩ := hinteger.exists_cons
    exact ⟨first, _, rfl, .inl hfirst⟩
  · exact ⟨'-', _, rfl, .inr rfl⟩

private theorem isDigit_head?_exponent {exponent rest : List Char} (h : IsExponent exponent)
    (hrest : EndsNumber rest) : ∀ c ∈ (exponent ++ rest).head?, c.isDigit = false ∧ c ≠ '.' := by
  intro c hc
  cases h with
  | absent => exact ⟨(hrest c hc).1, (hrest c hc).2.1⟩
  | digits hmark =>
    rw [List.cons_append, List.head?_cons, Option.mem_some_iff] at hc
    rcases hmark with rfl | rfl <;> subst hc <;> decide

private theorem isDigit_head?_fraction {fraction rest : List Char} (h : IsFraction fraction)
    (hrest : ∀ c ∈ rest.head?, c.isDigit = false) :
    ∀ c ∈ (fraction ++ rest).head?, c.isDigit = false := by
  intro c hc
  cases h with
  | absent => exact hrest c hc
  | digits =>
    rw [List.cons_append, List.head?_cons, Option.mem_some_iff] at hc
    subst hc
    rfl

/-! ### Reading a number -/

/-- Digits are skipped up to a character that is none. -/
theorem skipDigits?_append {digits rest : List Char} (h : IsDigits digits)
    (hrest : ∀ c ∈ rest.head?, c.isDigit = false) : skipDigits? (digits ++ rest) = some rest := by
  obtain ⟨first, others, rfl, hfirst⟩ := h.exists_cons
  have hothers : ∀ c ∈ others, c.isDigit = true := fun c hc =>
    h.isDigit c (List.mem_cons_of_mem first hc)
  have hdrop : rest.dropWhile Char.isDigit = rest := by
    cases rest with
    | nil => rfl
    | cons c rest => rw [List.dropWhile_cons_of_neg (by simp [hrest c rfl])]
  rw [List.cons_append, skipDigits?, if_pos hfirst, List.dropWhile_append_of_pos hothers, hdrop]

private theorem skipInteger?_append {integer rest : List Char} (h : IsInteger integer)
    (hrest : ∀ c ∈ rest.head?, c.isDigit = false) :
    skipInteger? (integer ++ rest) = some rest := by
  cases h with
  | zero => rfl
  | digits h hzero =>
    have hskip := skipDigits?_append h hrest
    obtain ⟨first, others, rfl, -⟩ := h.exists_cons
    have hne : first ≠ '0' := fun heq => hzero (heq ▸ rfl)
    rw [List.cons_append] at hskip ⊢
    rw [skipInteger?, hskip]
    rintro _ heq
    exact hne (List.head_eq_of_cons_eq heq)

private theorem skipMinus_append {sign integer rest : List Char} (hsign : sign = [] ∨ sign = ['-'])
    (h : IsInteger integer) : skipMinus (sign ++ (integer ++ rest)) = integer ++ rest := by
  rcases hsign with rfl | rfl
  · obtain ⟨first, others, rfl, hfirst⟩ := h.exists_cons
    rw [List.nil_append, List.cons_append, skipMinus]
    rintro _ heq
    rw [List.head_eq_of_cons_eq heq] at hfirst
    cases hfirst
  · rfl

private theorem skipFraction?_append {fraction rest : List Char} (h : IsFraction fraction)
    (hrest : ∀ c ∈ rest.head?, c.isDigit = false ∧ c ≠ '.') :
    skipFraction? (fraction ++ rest) = some rest := by
  cases h with
  | absent =>
    cases rest with
    | nil => rfl
    | cons c rest =>
      rw [List.nil_append, skipFraction?]
      rintro _ heq
      exact (hrest c rfl).2 (List.head_eq_of_cons_eq heq)
  | digits h => exact skipDigits?_append h fun c hc => (hrest c hc).1

/-- A sign in front of digits is skipped. -/
theorem skipSign_append {sign digits rest : List Char}
    (hsign : sign = [] ∨ sign = ['+'] ∨ sign = ['-']) (h : IsDigits digits) :
    skipSign (sign ++ (digits ++ rest)) = digits ++ rest := by
  rcases hsign with rfl | rfl | rfl
  · obtain ⟨first, others, rfl, hfirst⟩ := h.exists_cons
    rw [List.nil_append, List.cons_append, skipSign]
    · rintro _ heq
      rw [List.head_eq_of_cons_eq heq] at hfirst
      cases hfirst
    · rintro _ heq
      rw [List.head_eq_of_cons_eq heq] at hfirst
      cases hfirst
  · rfl
  · rfl

private theorem skipExponent?_append {exponent rest : List Char} (h : IsExponent exponent)
    (hrest : EndsNumber rest) : skipExponent? (exponent ++ rest) = some rest := by
  cases h with
  | absent =>
    cases rest with
    | nil => rfl
    | cons c rest =>
      rw [List.nil_append, skipExponent?]
      · rintro _ heq
        exact (hrest c rfl).2.2.1 (List.head_eq_of_cons_eq heq)
      · rintro _ heq
        exact (hrest c rfl).2.2.2 (List.head_eq_of_cons_eq heq)
  | @digits mark sign digits hmark hsign h =>
    have hskip : skipDigits? (skipSign (sign ++ digits ++ rest)) = some rest := by
      rw [List.append_assoc, skipSign_append hsign h]
      exact skipDigits?_append h fun c hc => (hrest c hc).1
    rcases hmark with rfl | rfl <;> exact hskip

/-- **A number is read to its end.** -/
theorem readNumber?_append {number rest : List Char} (h : IsNumber number)
    (hrest : EndsNumber rest) : readNumber? (number ++ rest) = some (number, rest) := by
  have hskip : skipNumber? (number ++ rest) = some rest := by
    obtain ⟨hsign, hinteger, hfraction, hexponent⟩ := h
    have hbehind := isDigit_head?_exponent hexponent hrest
    have hbehind' := isDigit_head?_fraction hfraction fun c hc => (hbehind c hc).1
    rw [skipNumber?, List.append_assoc, List.append_assoc, List.append_assoc,
      skipMinus_append hsign hinteger, skipInteger?_append hinteger hbehind']
    show skipFraction? _ >>= skipExponent? = _
    rw [skipFraction?_append hfraction hbehind]
    exact skipExponent?_append hexponent hrest
  rw [readNumber?, hskip, Option.map_some, List.length_append, Nat.add_sub_cancel, List.take_left]

end CompileCommands.Json
