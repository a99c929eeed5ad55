/-
**Double-precision numbers.**

A finite double is a sign and a mantissa below `2 ^ 53` times a power of two; the least power is
`2 ^ (-1074)`. Every operation is carried out exactly on fractions and rounded once, a half to the
even mantissa.

* `Binary64.ofQuotient?`: the double nearest to a fraction, if it is finite;
* `Binary64.add?`, `Binary64.mul?`, `Binary64.div?`: the double nearest to the exact result;
* `Binary64.round`: the nearest whole number, a half away from zero.
-/

import Paydesk.Decimal.Rounding

namespace Paydesk

/-- A finite double. -/
structure Binary64 where
  negative : Bool
  mantissa : Nat
  exponent : Int
  deriving DecidableEq

namespace Binary64

/-- Zero with a sign. -/
def zero (negative : Bool) : Binary64 := ⟨negative, 0, 0⟩

instance : Inhabited Binary64 := ⟨zero false⟩

/-- The least exponent. -/
def minExponent : Int := -1074

/-- The greatest exponent of a mantissa of 53 bits. -/
def maxExponent : Int := 971

def isZero (number : Binary64) : Bool := number.mantissa == 0

/-- The numerator of the magnitude. -/
def numerator (number : Binary64) : Nat := number.mantissa * Nat.pow 2 number.exponent.toNat

/-- The denominator of the magnitude. -/
def denominator (number : Binary64) : Nat := Nat.pow 2 (-number.exponent).toNat

/-- The mantissa of a fraction at a given exponent. -/
def mantissaAt (num den : Nat) (exponent : Int) : Nat :=
  quotientHalfEven (num * Nat.pow 2 (-exponent).toNat) (den * Nat.pow 2 exponent.toNat)

/-- The exponent at which a fraction above zero has a mantissa of so many bits. -/
def leadingExponent (bits num den : Nat) : Int :=
  let guess : Int := (num.log2 : Int) - (den.log2 : Int) - ((bits : Int) - 1)
  let enough :=
    den * Nat.pow 2 guess.toNat * Nat.pow 2 (bits - 1) ≤ num * Nat.pow 2 (-guess).toNat
  if enough then guess else guess - 1

/-- The exponent at which a fraction above zero has a mantissa of 53 bits, or the least one. -/
def exponentOf (num den : Nat) : Int := max minExponent (leadingExponent 53 num den)

/-- The double nearest to a fraction, if it is finite. -/
def ofQuotient? (negative : Bool) (num den : Nat) : Option Binary64 :=
  if num = 0 ∨ den = 0 then some (zero negative)
  else
    let exponent := exponentOf num den
    let mantissa := mantissaAt num den exponent
    let number : Binary64 :=
      if mantissa < Nat.pow 2 53 then ⟨negative, mantissa, exponent⟩
      else ⟨negative, Nat.pow 2 52, exponent + 1⟩
    if number.mantissa = 0 then some (zero negative)
    else if number.exponent ≤ maxExponent then some number
    else none

/-- The double nearest to a natural number, if it is finite. -/
def ofNat? (number : Nat) : Option Binary64 := ofQuotient? false number 1

/-- The magnitude with the sign, as a fraction over the denominator. -/
def signedNumerator (number : Binary64) : Int :=
  if number.negative then -(number.numerator : Int) else number.numerator

/-- The double nearest to a sum. -/
def add? (first second : Binary64) : Option Binary64 :=
  let sum := first.signedNumerator * second.denominator
    + second.signedNumerator * first.denominator
  ofQuotient? (sum < 0) sum.natAbs (first.denominator * second.denominator)

/-- The double nearest to a product. -/
def mul? (first second : Binary64) : Option Binary64 :=
  ofQuotient? (first.negative != second.negative) (first.numerator * second.numerator)
    (first.denominator * second.denominator)

/-- The double nearest to a quotient; the divisor is not zero. -/
def div? (first second : Binary64) : Option Binary64 :=
  ofQuotient? (first.negative != second.negative) (first.numerator * second.denominator)
    (first.denominator * second.numerator)

/-- The nearest whole number, a half away from zero. -/
def round (number : Binary64) : Binary64 :=
  if 0 ≤ number.exponent then number
  else
    match ofQuotient? number.negative
      (quotientHalfUp number.numerator number.denominator) 1 with
    | some whole => whole
    | none => number

/-- The opposite number. -/
def neg (number : Binary64) : Binary64 := { number with negative := !number.negative }

/-- The double nearest to a power of ten. -/
def powerOfTen? (power : Nat) : Option Binary64 := ofNat? (Nat.pow 10 power)

end Binary64

end Paydesk
