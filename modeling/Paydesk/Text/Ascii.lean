/-
**ASCII letters and digits.**

Codes, flags and headers are compared by their ASCII letters; every other character is left alone.

* `upperCase`, `lowerCase`: the letters `a` to `z` and `A` to `Z` exchanged, all else kept;
* `sameLetters`: equality of texts up to the case of those letters;
* `digitValue?`: the value of a decimal digit;
* `padZeros`: leading zeros up to a width.
-/

namespace Paydesk.Text

/-- A text with its ASCII letters in capitals. -/
def upperCase (text : String) : String := String.ofList (text.toList.map Char.toUpper)

/-- A text with its ASCII letters in small form. -/
def lowerCase (text : String) : String := String.ofList (text.toList.map Char.toLower)

/-- Whether two texts differ at most in the case of ASCII letters. -/
def sameLetters (first second : String) : Bool := lowerCase first == lowerCase second

/-- Whether a character is one of the letters `a` to `z` or `A` to `Z`. -/
def isLetter (char : Char) : Bool :=
  ('a' ≤ char && char ≤ 'z') || ('A' ≤ char && char ≤ 'Z')

/-- The value of a digit `0` to `9`. -/
def digitValue? (char : Char) : Option Nat :=
  if '0' ≤ char ∧ char ≤ '9' then some (char.toNat - '0'.toNat) else none

/-- Whether a character is one of the digits `0` to `9`. -/
def isDigit (char : Char) : Bool := '0' ≤ char && char ≤ '9'

/-- The characters of a natural number in decimal digits. -/
def digits (number : Nat) : List Char := Nat.toDigits 10 number

/-- Characters with zeros put before them up to a width. -/
def padZeros (width : Nat) (chars : List Char) : List Char :=
  List.replicate (width - chars.length) '0' ++ chars

/-- A natural number in at least so many decimal digits. -/
def paddedDigits (width number : Nat) : String := String.ofList (padZeros width (digits number))

end Paydesk.Text
