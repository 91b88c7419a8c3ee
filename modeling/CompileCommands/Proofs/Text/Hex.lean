import CompileCommands.Text.Hex
import Mathlib.Algebra.Group.Nat.Defs
import Mathlib.Data.List.Induction

/-!
# Numbers in hexadecimal digits

A digit stands for the same number in either size, so a sequence of digits is read as a number
exactly if it is the number's digits when the letters are made small.

## Main definitions

* `Text.hexDigits`: the last digits of a number, as many as are asked for.

## Main results

* `Text.hexValue?_eq_some_iff`: the digits of a number below sixteen.
* `Text.hexNumber?_eq_some_iff`: the sequences of digits that are read as a number.
* `Text.scalar?_eq_some_iff`: the character with a code point.
-/

namespace CompileCommands.Text

/-- The last digits of a number, in small letters. -/
def hexDigits : (width n : Nat) → List Char
  | 0, _ => []
  | width + 1, n => hexDigits width (n / 16) ++ [hexDigit (n % 16)]

@[simp] theorem length_hexDigits (width n : Nat) : (hexDigits width n).length = width := by
  induction width generalizing n with
  | zero => rfl
  | succ width ih => rw [hexDigits, List.length_append, ih, List.length_singleton]

private theorem exists_of_mem_hexDigits {width n : Nat} {c : Char} (h : c ∈ hexDigits width n) :
    ∃ digit, c = hexDigit digit := by
  induction width generalizing n with
  | zero => cases h
  | succ width ih =>
    rcases List.mem_append.1 h with h | h
    · exact ih h
    · exact ⟨n % 16, List.mem_singleton.1 h⟩

/-! ### Single digits -/

/-- What holds of all ASCII characters up to a code point, checked one by one. -/
theorem forall_char_lt {p : Char → Prop} {bound : Nat} (h : ∀ n < bound, p (Char.ofNat n))
    {c : Char} (hc : c.toNat < bound) : p c := by
  have hn := h c.toNat hc
  rwa [Char.ofNat_toNat] at hn

private theorem toLower_of_le {c : Char} (h : 128 ≤ c.toNat) : c.toLower = c := by
  have hval : ¬ c.val ≤ 'Z'.val := by
    rw [UInt32.le_iff_toNat_le]
    show ¬ c.toNat ≤ 90
    omega
  exact dif_neg fun hupper => hval hupper.2

/-- Digits are ASCII characters. -/
private theorem hexValue?_of_le {c : Char} (h : 128 ≤ c.toNat) : hexValue? c = none := by
  have hlt (digit : Char) (hdigit : digit.toNat < 128) : ¬ c ≤ digit := by
    rw [Char.le_def, UInt32.le_iff_toNat_le]
    show ¬ c.toNat ≤ digit.toNat
    omega
  rw [hexValue?, if_neg fun hc => hlt '9' (by decide) hc.2,
    if_neg fun hc => hlt 'f' (by decide) hc.2, if_neg fun hc => hlt 'F' (by decide) hc.2]

/-- A digit stands for the same number in either size. -/
theorem hexValue?_toLower (c : Char) : hexValue? c.toLower = hexValue? c := by
  by_cases hc : c.toNat < 128
  · exact forall_char_lt (p := fun c => hexValue? c.toLower = hexValue? c) (by decide) hc
  · rw [toLower_of_le (by omega)]

/-- The digits of a number below sixteen: its digit in small letters, in either size. -/
theorem hexValue?_eq_some_iff {c : Char} {n : Nat} :
    hexValue? c = some n ↔ n < 16 ∧ c.toLower = hexDigit n := by
  constructor
  · intro h
    have hall : ∀ n < 128, ∀ value ∈ hexValue? (Char.ofNat n),
        value < 16 ∧ (Char.ofNat n).toLower = hexDigit value := by decide
    by_cases hc : c.toNat < 128
    · exact forall_char_lt (p := fun c => ∀ value ∈ hexValue? c,
        value < 16 ∧ c.toLower = hexDigit value) hall hc n h
    · rw [hexValue?_of_le (by omega)] at h
      cases h
  · rintro ⟨hlt, hlower⟩
    rw [← hexValue?_toLower, hlower, hexValue?_hexDigit hlt]

private theorem toLower_hexDigit {n : Nat} (h : n < 16) : (hexDigit n).toLower = hexDigit n :=
  (hexValue?_eq_some_iff.1 (hexValue?_hexDigit h)).2

/-- A digit in small letters is no control character, so neither is the digit. -/
private theorem space_le_of_toLower {c : Char} {n : Nat} (h : c.toLower = hexDigit n) :
    0x20 ≤ c.toNat := by
  by_contra hc
  have hsmall : ∀ n < 0x20, (Char.ofNat n).toLower = Char.ofNat n := by decide
  have hsame : c.toLower = c := forall_char_lt (p := fun c => c.toLower = c) hsmall (by omega)
  have hdigit : 0x20 ≤ (hexDigit n).toNat := by
    rw [hexDigit, List.getD_eq_getElem?_getD]
    rcases hget : "0123456789abcdef".toList[n]? with _ | digit
    · decide
    · have hall : ∀ digit ∈ "0123456789abcdef".toList, 0x20 ≤ digit.toNat := by simp
      exact hall digit (List.mem_of_getElem? hget)
  rw [← h, hsame] at hdigit
  exact hc hdigit

/-! ### Sequences of digits -/

/-- The digits of a number are in small letters. -/
theorem map_toLower_hexDigits (width n : Nat) :
    (hexDigits width n).map Char.toLower = hexDigits width n := by
  induction width generalizing n with
  | zero => rfl
  | succ width ih =>
    rw [hexDigits, List.map_append, ih, List.map_singleton,
      toLower_hexDigit (Nat.mod_lt n (by decide))]

/-- The digits of a number, in letters of either size, are no control characters. -/
theorem space_le_of_map_toLower {digits : List Char} {width n : Nat}
    (h : digits.map Char.toLower = hexDigits width n) : ∀ c ∈ digits, 0x20 ≤ c.toNat := by
  intro c hc
  have hmem : c.toLower ∈ digits.map Char.toLower := List.mem_map_of_mem hc
  rw [h] at hmem
  obtain ⟨digit, hdigit⟩ := exists_of_mem_hexDigits hmem
  exact space_le_of_toLower hdigit

private theorem hexNumber?_append_singleton (digits : List Char) (digit : Char) :
    hexNumber? (digits ++ [digit]) =
      (hexNumber? digits).bind fun n => (hexValue? digit).map (16 * n + ·) := by
  rw [hexNumber?, hexNumber?, List.foldlM_append]
  simp

/-- **A sequence of digits is read as a number exactly if it is the digits of the number**, in
letters of either size. -/
theorem hexNumber?_eq_some_iff {digits : List Char} {n : Nat} :
    hexNumber? digits = some n ↔
      n < 16 ^ digits.length ∧ digits.map Char.toLower = hexDigits digits.length n := by
  induction digits using List.reverseRecOn generalizing n with
  | nil =>
    show some 0 = some n ↔ n < 1 ∧ [] = []
    simp [eq_comm]
  | append_singleton digits digit ih =>
    rw [hexNumber?_append_singleton, List.length_append, List.length_singleton, hexDigits,
      List.map_append, List.map_singleton, pow_succ, List.append_singleton_inj]
    constructor
    · intro h
      obtain ⟨front, hfront, h⟩ := Option.bind_eq_some_iff.1 h
      obtain ⟨value, hvalue, rfl⟩ := Option.map_eq_some_iff.1 h
      obtain ⟨hlt, hdigits⟩ := ih.1 hfront
      obtain ⟨hvalue, hdigit⟩ := hexValue?_eq_some_iff.1 hvalue
      have hdiv : (16 * front + value) / 16 = front := by omega
      have hmod : (16 * front + value) % 16 = value := by omega
      rw [hdiv, hmod]
      exact ⟨by omega, hdigits, hdigit⟩
    · rintro ⟨hlt, hdigits, hdigit⟩
      have hfront : hexNumber? digits = some (n / 16) := ih.2 ⟨by omega, hdigits⟩
      have hvalue : hexValue? digit = some (n % 16) :=
        hexValue?_eq_some_iff.2 ⟨Nat.mod_lt n (by decide), hdigit⟩
      rw [hfront, hvalue, Option.bind_some, Option.map_some, Nat.div_add_mod]

/-! ### Code points -/

/-- A code point is that of a character. -/
theorem scalar?_eq_some_iff {n : Nat} {c : Char} : scalar? n = some c ↔ c.toNat = n := by
  constructor
  · intro h
    rw [scalar?] at h
    by_cases hvalid : n.isValidChar
    · rw [dif_pos hvalid] at h
      cases h
      rfl
    · rw [dif_neg hvalid] at h
      cases h
  · rintro rfl
    exact scalar?_toNat c

end CompileCommands.Text
