/-
**Amounts of money.**

An amount is a decimal of at most two places. Every constructor rounds to cents once, a half away
from zero, and shows two places unless the number is too large to carry them; sums and differences
need no further rounding.

* `Amount.round`: the amount nearest to a decimal;
* `Amount.ofMinor`, `Amount.toMinor?`: amounts in cents;
* `Amount.add`, `Amount.sub`: stop with an overflow where the result is out of bounds;
* `Amount.scale?`, `Amount.div?`: multiplied or divided by a factor that is no amount;
* `Amount.read`, `Amount.write`: amounts in text.
-/

import Paydesk.Decimal.Quotient
import Paydesk.Decimal.Text
import Paydesk.Text.Blank

namespace Paydesk

/-- The places that an amount carries. -/
def Amount.places : Nat := 2

/-- An amount in some currency. -/
structure Amount where
  value : Decimal
  scale_le : value.scale ≤ Amount.places
  deriving DecidableEq

/-- A sum or difference that no decimal can hold, or a count after its last number. -/
inductive Overflow where
  | addition
  | subtraction
  | counting
  deriving DecidableEq

/-- The text of an overflow. -/
def Overflow.message : Overflow → String
  | addition => "Addition overflowed"
  | subtraction => "Subtraction overflowed"
  | counting => "attempt to add with overflow"

namespace Amount

/-- The amount nearest to a decimal, a half away from zero. -/
def round (value : Decimal) : Amount :=
  ⟨(value.round places).padTo places, Decimal.padTo_scale_le (value.round_scale_le places)⟩

/-- No money, shown in cents. -/
def zero : Amount := round .zero

/-- An amount that was never set. -/
def unset : Amount := ⟨.zero, by decide⟩

instance : Inhabited Amount := ⟨unset⟩

theorem natAbs_toInt_lt (number : Int64) : number.toInt.natAbs < Decimal.limit := by
  have upper := number.toInt_lt
  have lower := number.le_toInt
  have bound : 9223372036854775808 < Decimal.limit := by decide
  omega

/-- An amount in cents. -/
def ofMinor (minor : Int64) : Amount :=
  ⟨.ofParts (minor.toInt < 0) minor.toInt.natAbs places (natAbs_toInt_lt minor) (by decide),
    Nat.le_refl _⟩

/-- A whole amount. -/
def ofInt (whole : Int64) : Amount :=
  round (.ofParts (whole.toInt < 0) whole.toInt.natAbs 0 (natAbs_toInt_lt whole) (Nat.zero_le _))

/-- The coefficient with its sign, if it is a number of 64 bits. -/
def toMinor? (amount : Amount) : Option Int64 := Text.toInt64? amount.value.signedCoefficient

def isZero (amount : Amount) : Bool := amount.value.isZero

def isPositive (amount : Amount) : Bool := amount.value.isPositive

/-- An amount multiplied by a factor and rounded. -/
def scale? (amount : Amount) (factor : Decimal) : Option Amount :=
  (amount.value.mul? factor).map round

/-- An amount divided by a divisor and rounded. -/
def div? (amount : Amount) (divisor : Decimal) : Option Amount :=
  (amount.value.div? divisor).map round

instance : Ord Amount := ⟨fun first second => first.value.order second.value⟩

/-- Whether two amounts are the same money, however many places they show. -/
def sameValue (first second : Amount) : Bool := first.value.sameValue second.value

/-- The opposite amount. -/
def neg (amount : Amount) : Amount := ⟨amount.value.neg, amount.scale_le⟩

instance : Neg Amount := ⟨neg⟩

/-- The sum of two amounts. -/
def add (first second : Amount) : Except Overflow Amount :=
  match found : first.value.add? second.value with
  | some value => .ok ⟨value, Decimal.add?_scale_le first.scale_le second.scale_le found⟩
  | none => .error .addition

/-- The difference of two amounts. -/
def sub (first second : Amount) : Except Overflow Amount :=
  match found : first.value.sub? second.value with
  | some value => .ok ⟨value, Decimal.sub?_scale_le first.scale_le second.scale_le found⟩
  | none => .error .subtraction

/-- The sum of a list of amounts, from its first to its last. -/
def sum (amounts : List Amount) : Except Overflow Amount := amounts.foldlM add zero

/-- An amount with two places. -/
def write (amount : Amount) : String := amount.value.writeFixed places

/-- A text that is no amount of money. -/
structure ParseError where
  text : String
  cause : NumeralError
  deriving DecidableEq

/-- The text of an error: the text as it was given and what is wrong with its numeral. -/
def ParseError.message (error : ParseError) : String :=
  s!"Value is not a valid monetary amount: {error.text}. {error.cause.message}"

/-- The amount of a text; white space around it does not count. -/
def read (text : String) : Except ParseError Amount :=
  match Decimal.read (Text.trimBlank text) with
  | .ok value => .ok (round value)
  | .error cause => .error ⟨text, cause⟩

end Amount

end Paydesk
