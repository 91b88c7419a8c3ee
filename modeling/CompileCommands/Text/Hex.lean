/-!
# Hexadecimal digits

Escape sequences name a character by its code point in hexadecimal digits. Digits are written in
small letters and read in letters of either size.

## Main definitions

* `hexDigit`: the digit of a number below sixteen.
* `hexValue?`: the number that a digit stands for.
* `hexNumber?`: the number that a sequence of digits stands for.
* `scalar?`: the character with a given code point.

## Main results

* `hexValue?_hexDigit`: a digit that was written is read back.
-/

namespace CompileCommands.Text

/-- The digit of a number below sixteen. -/
def hexDigit (n : Nat) : Char :=
  "0123456789abcdef".toList.getD n '0'

/-- The number that a hexadecimal digit stands for. -/
def hexValue? (c : Char) : Option Nat :=
  if '0' ≤ c ∧ c ≤ '9' then some (c.toNat - '0'.toNat)
  else if 'a' ≤ c ∧ c ≤ 'f' then some (c.toNat - 'a'.toNat + 10)
  else if 'A' ≤ c ∧ c ≤ 'F' then some (c.toNat - 'A'.toNat + 10)
  else none

/-- The number that a sequence of hexadecimal digits stands for. -/
def hexNumber? (digits : List Char) : Option Nat :=
  digits.foldlM (fun n digit => (hexValue? digit).map (16 * n + ·)) 0

/-- The character with the given code point. A surrogate is no character. -/
def scalar? (n : Nat) : Option Char :=
  if h : n.isValidChar then some (Char.ofNatAux n h) else none

/-- A digit that was written is read back. -/
theorem hexValue?_hexDigit {n : Nat} (h : n < 16) : hexValue? (hexDigit n) = some n := by
  revert n
  decide

/-- The character with the code point of a character is that character. -/
theorem scalar?_toNat (c : Char) : scalar? c.toNat = some c := by
  have h : c.toNat.isValidChar := c.valid
  rw [scalar?, dif_pos h]
  exact congrArg some (Char.toNat_inj.1 rfl)

end CompileCommands.Text
