/-!
# The start of a text

Most formats of this library begin with fixed words, and some with a name that an equals sign
closes. This file takes such a word, or such a name, off the start of a text.

## Main definitions

* `after?`: what follows a given word at the start of a text.
* `divide`: the text in front of a mark, and what follows the mark.

## Main results

* `after?_eq_some_iff`: the word and what follows it make up the text.
* `divide_append_cons`: a text is divided at its first mark.
-/

namespace CompileCommands.Text

/-- What follows the word at the start of the text, if the text starts with it. -/
def after? : (word text : List Char) → Option (List Char)
  | [], text => some text
  | _ :: _, [] => none
  | w :: word, c :: text => if w = c then after? word text else none

@[simp] theorem after?_nil (text : List Char) : after? [] text = some text := by
  cases text <;> rfl

/-- The word and what follows it make up the text. -/
theorem after?_eq_some_iff {word text rest : List Char} :
    after? word text = some rest ↔ text = word ++ rest := by
  induction word generalizing text with
  | nil => simp
  | cons w word ih =>
    cases text with
    | nil => simp [after?]
    | cons c text =>
      by_cases h : w = c
      · simp [after?, h, ih]
      · simp [after?, h, Ne.symm h]

/-- Taking a word off a text that was put together with it gives back the rest. -/
@[simp] theorem after?_append (word rest : List Char) : after? word (word ++ rest) = some rest :=
  after?_eq_some_iff.2 rfl

/-- The text in front of the first mark, and what follows the mark if there is one. -/
def divide (mark : Char) (text : List Char) : List Char × Option (List Char) :=
  (text.takeWhile (· ≠ mark), (text.dropWhile (· ≠ mark)).tail?)

/-- A text without the mark is not divided. -/
theorem divide_of_notMem {mark : Char} {text : List Char} (h : mark ∉ text) :
    divide mark text = (text, none) := by
  induction text with
  | nil => rfl
  | cons c text ih =>
    simp only [List.mem_cons, not_or] at h
    have hc : c ≠ mark := Ne.symm h.1
    simpa [divide, hc] using ih h.2

/-- A text is divided at its first mark. -/
theorem divide_append_cons {mark : Char} {text : List Char} (h : mark ∉ text)
    (rest : List Char) : divide mark (text ++ mark :: rest) = (text, some rest) := by
  have hne : ∀ c ∈ text, decide (c ≠ mark) = true := by
    intro c hc
    simpa using fun heq : c = mark => h (heq ▸ hc)
  rw [divide, List.takeWhile_append_of_pos hne, List.dropWhile_append_of_pos hne]
  simp

end CompileCommands.Text
