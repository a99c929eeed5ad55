/-
**Whole numbers in text.**

A whole number is written as an optional sign and decimal digits; a reader may also bound it.

* `readNat?`, `readInt?`: the number of a text that is nothing else;
* `readInt64?`: the same for numbers of 64 bits with a sign;
* `writeInt`: the digits of a whole number, with a minus sign below zero.
-/

import Paydesk.Text.Ascii

namespace Paydesk.Text

/-- The number that a list of digits stands for. -/
def natOfDigits? (chars : List Char) : Option Nat :=
  chars.foldl (fun number char => do return (← number) * 10 + (← digitValue? char)) (some 0)

/-- The number of one or more digits, with an optional plus sign. -/
def readNat? (text : String) : Option Nat :=
  match text.toList with
  | [] => none
  | ['+'] => none
  | '+' :: rest => natOfDigits? rest
  | chars => natOfDigits? chars

/-- The number of one or more digits, with an optional sign. -/
def readInt? (text : String) : Option Int :=
  match text.toList with
  | [] | ['-'] | ['+'] => none
  | '-' :: rest => (natOfDigits? rest).map fun number => -(number : Int)
  | '+' :: rest => (natOfDigits? rest).map Int.ofNat
  | chars => (natOfDigits? chars).map Int.ofNat

/-- Whether a whole number has a place among the 64-bit numbers with a sign. -/
def fitsInt64 (number : Int) : Bool := -Nat.pow 2 63 ≤ number && number < Nat.pow 2 63

/-- A whole number as a 64-bit number, if it has a place there. -/
def toInt64? (number : Int) : Option Int64 :=
  if fitsInt64 number then some (Int64.ofInt number) else none

/-- A 64-bit whole number in text. -/
def readInt64? (text : String) : Option Int64 := readInt? text >>= toInt64?

/-- The digits of a whole number, with a minus sign below zero. -/
def writeInt (number : Int) : String :=
  let magnitude := String.ofList (digits number.natAbs)
  if number < 0 then "-" ++ magnitude else magnitude

end Paydesk.Text
