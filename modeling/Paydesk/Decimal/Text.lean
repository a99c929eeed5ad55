/-
**Decimals in text.**

A numeral is an optional sign, digits and at most one point; underscores may separate digits once
a first digit has been seen. Where the bounds of a decimal run out after the point, the next digit
rounds the number (a half goes up); the digits after it are passed over.

A text with `e` or `E` is a numeral times a power of ten.

* `Decimal.readNumeral`: the decimal of a numeral, or what is wrong with it;
* `Decimal.readScientific`: the decimal of a numeral and an exponent;
* `Decimal.read`: either, as the text asks for;
* `Decimal.write`: all the digits a decimal carries;
* `Decimal.writeFixed`: at least so many places.
-/

import Paydesk.Decimal.Arithmetic
import Paydesk.Text.Integer

namespace Paydesk

/-- What is wrong with a numeral. -/
inductive NumeralError where
  | empty
  | noDigits
  | unknownCharacter
  | secondPoint
  | leadingSeparator
  | tooManyDigits
  | roundedTooLarge
  | badExponent
  | exponentTooLarge (power : Nat)
  | productTooLarge
  deriving DecidableEq

/-- The text of an error. -/
def NumeralError.message : NumeralError → String
  | empty => "Invalid decimal: empty"
  | noDigits => "Invalid decimal: no digits found"
  | unknownCharacter => "Invalid decimal: unknown character"
  | secondPoint => "Invalid decimal: two decimal points"
  | leadingSeparator => "Invalid decimal: must start lead with a number"
  | tooManyDigits => "Invalid decimal: overflow from too many digits"
  | roundedTooLarge => "Invalid decimal: overflow from mantissa after rounding"
  | badExponent => "Failed to parse"
  | exponentTooLarge power =>
    "Scale exceeds the maximum precision allowed: " ++ String.ofList (Text.digits power)
      ++ " > " ++ String.ofList (Text.digits Decimal.maxScale)
  | productTooLarge => "Number exceeds maximum value that can be represented."

namespace Decimal

/-- The first thing wrong with digits that are passed over. -/
def tailFault? : List Char → Option NumeralError
  | [] => none
  | char :: rest =>
    if Text.isDigit char || char == '_' then tailFault? rest
    else some (if char = '.' then .secondPoint else .unknownCharacter)

/-- Rounds a full coefficient by the first of the digits after it; a coefficient that overflows by
this gives up its last place. -/
def roundOff (coefficient scale : Nat) (tail : List Char) : Except NumeralError (Nat × Nat) :=
  match tailFault? tail with
  | some fault => .error fault
  | none =>
    if (tail.findSome? Text.digitValue?).getD 0 < 5 then .ok (coefficient, scale)
    else if coefficient + 1 < limit then .ok (coefficient + 1, scale)
    else if scale = 0 then .error .roundedTooLarge
    else .ok ((coefficient + 5) / 10, scale - 1)

/-- Reads on from a coefficient and scale; `started` tells whether a digit has been seen and
`point` whether the point has. -/
def readDigits (coefficient scale : Nat) (started point : Bool) :
    List Char → Except NumeralError (Nat × Nat)
  | [] => if started then .ok (coefficient, scale) else .error .noDigits
  | char :: rest =>
    if point && scale == maxScale then roundOff coefficient scale (char :: rest)
    else
      match Text.digitValue? char with
      | some digit =>
        if coefficient * 10 + digit < limit then
          readDigits (coefficient * 10 + digit) (if point then scale + 1 else scale) true point rest
        else if point then roundOff coefficient scale (char :: rest)
        else .error .tooManyDigits
      | none =>
        if char = '.' then
          if point then .error .secondPoint else readDigits coefficient scale started true rest
        else if char = '_' then
          if started then readDigits coefficient scale started point rest
          else .error .leadingSeparator
        else .error .unknownCharacter

/-- The decimal of digits with a sign. -/
def readSigned (negative : Bool) (chars : List Char) : Except NumeralError Decimal := do
  let (coefficient, scale) ← readDigits 0 0 false false chars
  match ofParts? negative coefficient scale with
  | some decimal => .ok decimal
  | none => .error .tooManyDigits

/-- The decimal of a numeral. -/
def readNumeral : List Char → Except NumeralError Decimal
  | [] => .error .empty
  | '-' :: rest => readSigned true rest
  | '+' :: rest => readSigned false rest
  | chars => readSigned false chars

/-- A decimal divided by a power of ten, keeping at most 28 places. -/
def shrink (decimal : Decimal) (power : Nat) : Except NumeralError Decimal :=
  if within : power ≤ maxScale then
    let kept := decimal.cut (maxScale - power)
    have short : kept.scale ≤ maxScale - power := decimal.cut_scale_le _
    .ok { kept with scale := kept.scale + power, scale_le := by omega }
  else .error (.exponentTooLarge power)

/-- A decimal times a power of ten, without zeros at its end if digits had to be added. -/
def grow (decimal : Decimal) (power : Nat) : Except NumeralError Decimal :=
  if power ≤ decimal.scale then
    have short := decimal.scale_le
    .ok { decimal with scale := decimal.scale - power, scale_le := by omega }
  else if power ≤ maxScale then
    let product : Option Decimal := do
      let first ← ofParts? false (Nat.pow 10 (min power 19)) 0
      let second ← ofParts? false (Nat.pow 10 (power - min power 19)) 0
      (← decimal.mul? first).mul? second
    match product with
    | some product => .ok product.trim
    | none => .error .productTooLarge
  else .error (.exponentTooLarge power)

/-- An exponent, a natural number of 32 bits. -/
def readExponent (chars : List Char) : Except NumeralError Nat :=
  match Text.readNat? (String.ofList chars) with
  | some power => if power < Nat.pow 2 32 then .ok power else .error .badExponent
  | none => .error .badExponent

/-- Whether a character announces an exponent. -/
def isExponentMark (char : Char) : Bool := char == 'e' || char == 'E'

/-- The decimal of a numeral and an exponent. -/
def readScientific (numeral exponent : List Char) : Except NumeralError Decimal := do
  let base ← readNumeral numeral
  match exponent with
  | '-' :: digits => base.shrink (← readExponent digits)
  | digits => base.grow (← readExponent digits)

/-- The decimal of a text. -/
def read (text : String) : Except NumeralError Decimal :=
  let chars := text.toList
  match chars.dropWhile (!isExponentMark ·) with
  | [] => readNumeral chars
  | _ :: exponent => readScientific (chars.takeWhile (!isExponentMark ·)) exponent

/-- A coefficient in digits with a point before the last `scale` of them. -/
def writeParts (coefficient scale : Nat) : List Char :=
  let chars := Text.padZeros (scale + 1) (Text.digits coefficient)
  let whole := chars.take (chars.length - scale)
  if scale = 0 then whole else whole ++ '.' :: chars.drop (chars.length - scale)

/-- A decimal with all its places. -/
def write (decimal : Decimal) : String :=
  let chars := writeParts decimal.coefficient decimal.scale
  String.ofList (if decimal.negative then '-' :: chars else chars)

/-- A decimal with zeros appended up to a number of places. -/
def writeFixed (decimal : Decimal) (places : Nat) : String :=
  let missing := places - decimal.scale
  let chars := writeParts (decimal.coefficient * Nat.pow 10 missing) (decimal.scale + missing)
  String.ofList (if decimal.negative then '-' :: chars else chars)

end Decimal

end Paydesk
