/-
**Numbers in the text of a table.**

A numeral is a sign, digits perhaps with a point, an exponent, and blanks around it. One without
point and exponent that fits 64 bits is whole. Any other is a double, made from its leading digits
by powers of ten: a product with `10 ^ 100`, `10 ^ 10` or `10`, or with the reciprocal of one, is
rounded to 64 bits each time, and only the last one to a double.

* `Extended`: numbers with a mantissa of 64 bits;
* `Literal.read?`: the number that a text spells;
* `Literal.order`: how a whole number compares with it.
-/

import Paydesk.Binary64.Basic
import Paydesk.Text.Integer

namespace Paydesk

/-! ### Numbers of 64 bits -/

/-- A natural number below `2 ^ 64` times a power of two. -/
structure Extended where
  mantissa : Nat
  exponent : Int
  deriving DecidableEq

namespace Extended

/-- The number nearest to a fraction, a half to the even mantissa. -/
def ofQuotient (num den : Nat) : Extended :=
  if num = 0 then ⟨0, 0⟩
  else
    let exponent := Binary64.leadingExponent 64 num den
    let mantissa := Binary64.mantissaAt num den exponent
    if mantissa < Nat.pow 2 64 then ⟨mantissa, exponent⟩ else ⟨Nat.pow 2 63, exponent + 1⟩

/-- The number nearest to a product. -/
def mul (first second : Extended) : Extended :=
  let product := ofQuotient (first.mantissa * second.mantissa) 1
  ⟨product.mantissa, product.exponent + first.exponent + second.exponent⟩

/-- The number nearest to a power of ten or its reciprocal. -/
def tenTo (divide : Bool) (power : Nat) : Extended :=
  if divide then ofQuotient 1 (Nat.pow 10 power) else ofQuotient (Nat.pow 10 power) 1

/-- A number times a factor, so many times. -/
def mulTimes (factor : Extended) : Nat → Extended → Extended
  | 0, number => number
  | count + 1, number => mulTimes factor count (number.mul factor)

/-- A number times or divided by a power of ten, by hundreds, tens and ones of the power. -/
def scale (number : Extended) (divide : Bool) (power : Nat) : Extended :=
  number |> mulTimes (tenTo divide 100) (power / 100)
    |> mulTimes (tenTo divide 10) (power % 100 / 10)
    |> mulTimes (tenTo divide 1) (power % 10)

/-- The nearest double, if it is finite. -/
def toBinary64? (number : Extended) (negative : Bool) : Option Binary64 :=
  Binary64.ofQuotient? negative (number.mantissa * Nat.pow 2 number.exponent.toNat)
    (Nat.pow 2 (-number.exponent).toNat)

end Extended

/-! ### Numerals -/

/-- The number that a text spells. -/
inductive Literal where
  | whole (number : Int)
  | double (number : Binary64)
  | infinite (negative : Bool)
  deriving DecidableEq

namespace Literal

/-- Whether a character is a blank of a numeral. -/
def isBlank (char : Char) : Bool :=
  char == ' ' || ('\t' ≤ char && char ≤ '\r')

/-- Characters without a sign, and whether it was a minus. -/
def takeSign : List Char → Bool × List Char
  | '-' :: rest => (true, rest)
  | '+' :: rest => (false, rest)
  | chars => (false, chars)

/-- The digits at the head of characters, and the rest. -/
def takeDigits (chars : List Char) : List Char × List Char :=
  (chars.takeWhile Text.isDigit, chars.dropWhile Text.isDigit)

/-- The digits after a point at the head of characters, if there is one, and the rest. -/
def takeFraction : List Char → Option (List Char) × List Char
  | '.' :: chars =>
    let (digits, rest) := takeDigits chars
    (some digits, rest)
  | chars => (none, chars)

/-- The value of an exponent's digits; one that has reached ten thousand stays there. -/
def exponentOfDigits (digits : List Char) : Nat :=
  digits.foldl (fun power char =>
    if power < 10000 then power * 10 + (Text.digitValue? char).getD 0 else 10000) 0

/-- An exponent that ends the characters, if there is one; nothing where they are no exponent. -/
def readExponent? : List Char → Option (Option Int)
  | [] => some none
  | mark :: rest =>
    let (negative, chars) := takeSign rest
    let (digits, left) := takeDigits chars
    if (mark == 'e' || mark == 'E') && !digits.isEmpty && left.isEmpty then
      let power := exponentOfDigits digits
      some (some (if negative then -(power : Int) else power))
    else none

/-- A significand takes digits while it is below this. -/
def fullSignificand : Nat := (Nat.pow 2 64 - 10) / 10

/-- A significand grown by leading digits while it has room, and how many were left out. -/
def takeSignificand (significand : Nat) : List Char → Nat × Nat
  | [] => (significand, 0)
  | char :: rest =>
    if significand < fullSignificand then
      takeSignificand (significand * 10 + (Text.digitValue? char).getD 0) rest
    else (significand, rest.length + 1)

/-- Moves powers of ten into a significand while a product stays below `2 ^ 64`. -/
def absorb (significand : Nat) : Nat → Nat × Nat
  | 0 => (significand, 0)
  | power + 1 =>
    if significand < (Nat.pow 2 64 - 1) / 10 then absorb (significand * 10) power
    else (significand, power + 1)

/-- Moves powers of ten out of a significand while they divide it. -/
def release (significand : Nat) : Nat → Nat × Nat
  | 0 => (significand, 0)
  | power + 1 =>
    if significand % 10 = 0 then release (significand / 10) power else (significand, power + 1)

/-- A significand times a power of ten as a double. -/
def scaled (negative : Bool) (significand : Nat) (power : Int) : Literal :=
  let divide := power < 0
  let (significand, left) :=
    if significand = 0 then (0, 0)
    else if divide then release significand power.natAbs
    else absorb significand power.natAbs
  match ((Extended.ofQuotient significand 1).scale divide left).toBinary64? negative with
  | some number => .double number
  | none => .infinite negative

/-- The number of a numeral's parts. -/
def ofParts (negative : Bool) (digits : List Char) (fraction : Option (List Char))
    (exponent : Option Int) : Literal :=
  let (leading, omitted) := takeSignificand 0 digits
  let places := fraction.getD []
  let (significand, ignored) := takeSignificand leading places
  let rounded := scaled negative significand
    (exponent.getD 0 + omitted - (places.length - ignored : Nat))
  if fraction.isSome || exponent.isSome then rounded
  else
    let magnitude := (Text.natOfDigits? digits).getD 0
    let number : Int := if negative then -(magnitude : Int) else magnitude
    if Text.fitsInt64 number then .whole number else rounded

/-- The number that a text spells. -/
def read? (text : String) : Option Literal := do
  let chars := (text.toList.dropWhile isBlank).reverse.dropWhile isBlank
  let (negative, chars) := takeSign chars.reverse
  let (digits, rest) := takeDigits chars
  let (fraction, rest) := takeFraction rest
  let exponent ← readExponent? rest
  if digits.isEmpty && (fraction.getD []).isEmpty then none
  else some (ofParts negative digits fraction exponent)

/-- How a whole number compares with a literal. -/
def order (value : Int) : Literal → Ordering
  | whole number => compare value number
  | double number => compare (value * number.denominator) number.signedNumerator
  | infinite negative => if negative then .gt else .lt

end Literal

end Paydesk
