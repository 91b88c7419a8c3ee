/-!
# Numbers in JSON

A number is an optional minus sign, an integer without leading zeros, an optional fraction and an
optional exponent. This file takes a number off the start of a text; its value is of no interest
here, so the number is kept as it is written.

## Main definitions

* `Json.skipInteger?`, `Json.skipFraction?`, `Json.skipExponent?`: what follows each part of a
  number.
* `Json.readNumber?`: a number at the start of a text, and what follows it.

## Main results

* `Json.length_readNumber?`: a number takes up part of the text.
-/

namespace CompileCommands.Json

/-- What follows the digits at the start of the text, of which there must be one. -/
def skipDigits? : List Char → Option (List Char)
  | [] => none
  | c :: text => if c.isDigit then some (text.dropWhile Char.isDigit) else none

/-- What follows the integer at the start of the text. A zero stands alone. -/
def skipInteger? : List Char → Option (List Char)
  | '0' :: text => some text
  | text => skipDigits? text

/-- What follows the minus sign at the start of the text, if there is one. -/
def skipMinus : List Char → List Char
  | '-' :: text => text
  | text => text

/-- What follows the fraction at the start of the text, if there is one. -/
def skipFraction? : List Char → Option (List Char)
  | '.' :: text => skipDigits? text
  | text => some text

/-- What follows the sign at the start of the text, if there is one. -/
def skipSign : List Char → List Char
  | '+' :: text => text
  | '-' :: text => text
  | text => text

/-- What follows the exponent at the start of the text, if there is one. -/
def skipExponent? : List Char → Option (List Char)
  | 'e' :: text => skipDigits? (skipSign text)
  | 'E' :: text => skipDigits? (skipSign text)
  | text => some text

/-- What follows the number at the start of the text. -/
def skipNumber? (text : List Char) : Option (List Char) :=
  skipInteger? (skipMinus text) >>= skipFraction? >>= skipExponent?

/-- The number at the start of the text, as it is written, and what follows it. -/
def readNumber? (text : List Char) : Option (List Char × List Char) :=
  (skipNumber? text).map fun rest => (text.take (text.length - rest.length), rest)

/-! ### A number takes up part of the text -/

theorem length_skipDigits? {text rest : List Char} (h : skipDigits? text = some rest) :
    rest.length < text.length := by
  cases text with
  | nil => simp [skipDigits?] at h
  | cons c text =>
    simp only [skipDigits?] at h
    split at h <;> simp at h
    subst h
    have := (List.dropWhile_suffix Char.isDigit (l := text)).length_le
    simp only [List.length_cons]
    omega

private theorem length_skipInteger? {text rest : List Char} (h : skipInteger? text = some rest) :
    rest.length < text.length := by
  unfold skipInteger? at h
  split at h
  · simp at h
    simp [h]
  · exact length_skipDigits? h

private theorem length_skipMinus (text : List Char) : (skipMinus text).length ≤ text.length := by
  unfold skipMinus
  split <;> simp

private theorem length_skipSign (text : List Char) : (skipSign text).length ≤ text.length := by
  unfold skipSign
  split <;> simp

private theorem length_skipFraction? {text rest : List Char} (h : skipFraction? text = some rest) :
    rest.length ≤ text.length := by
  unfold skipFraction? at h
  split at h
  · have := length_skipDigits? h
    simp only [List.length_cons]
    omega
  · simp_all

private theorem length_skipExponent? {text rest : List Char} (h : skipExponent? text = some rest) :
    rest.length ≤ text.length := by
  unfold skipExponent? at h
  split at h
  · rename_i text
    have := length_skipDigits? h
    have := length_skipSign text
    simp only [List.length_cons]
    omega
  · rename_i text
    have := length_skipDigits? h
    have := length_skipSign text
    simp only [List.length_cons]
    omega
  · simp_all

/-- A number takes up part of the text. -/
theorem length_readNumber? {text rest number : List Char}
    (h : readNumber? text = some (number, rest)) : rest.length < text.length := by
  simp only [readNumber?, skipNumber?, Option.bind_eq_bind, Option.map_eq_some_iff,
    Option.bind_eq_some_iff, Prod.mk.injEq] at h
  obtain ⟨_, ⟨_, ⟨_, hinteger, hfraction⟩, hexponent⟩, _, rfl⟩ := h
  have := length_skipMinus text
  have := length_skipInteger? hinteger
  have := length_skipFraction? hfraction
  have := length_skipExponent? hexponent
  omega

end CompileCommands.Json
