/-!
# Numbers in log filters

A limit in a filter can be a number in digits. A filter can also ask for values that are a given
number. Such a number may have a sign, a fraction, of which either side of the point may be missing
but not both, and an exponent; it may also be infinite or none at all, in letters of either size.

## Main definitions

* `Filter.number?`: the number that a text in digits stands for.
* `Filter.isNumber`: whether a text is a number in the wider sense.
-/

namespace CompileCommands.Filter

/-- The text is made up of digits, of which there must be one. -/
def areDigits (text : List Char) : Bool :=
  !text.isEmpty && text.all Char.isDigit

/-- The number that the digits of a text make up, of which there must be one. A plus sign may
precede them. -/
def number? (text : List Char) : Option Nat :=
  let digits := if text.head? = some '+' then text.tail else text
  if areDigits digits then some (digits.foldl (fun n digit => 10 * n + (digit.toNat - '0'.toNat)) 0)
  else none

/-- The text without the sign that it may begin with. -/
def withoutSign : List Char → List Char
  | '+' :: text => text
  | '-' :: text => text
  | text => text

/-- The text is an exponent, or empty. -/
def isExponent : List Char → Bool
  | [] => true
  | c :: text => c.toLower == 'e' && areDigits (withoutSign text)

/-- The text is a number in digits, without a sign. -/
def isDecimal (text : List Char) : Bool :=
  let whole := text.takeWhile Char.isDigit
  match text.dropWhile Char.isDigit with
  | '.' :: rest =>
    (!whole.isEmpty || rest.head?.any Char.isDigit) && isExponent (rest.dropWhile Char.isDigit)
  | rest => !whole.isEmpty && isExponent rest

/-- The numbers that are written in letters. -/
def numberWords : List String :=
  ["inf", "infinity", "nan"]

/-- The text is a number. -/
def isNumber (text : List Char) : Bool :=
  let unsigned := withoutSign text
  isDecimal unsigned || numberWords.contains (String.ofList (unsigned.map Char.toLower))

end CompileCommands.Filter
