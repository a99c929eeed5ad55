/-
**The fewest digits that read back.**

The reals that round to a double form an interval, ends included if its mantissa is even. Of the
decimal grids, from one digit on, the first that has a point in the interval gives the digits; of
two such points the nearer one, and of two equally near the one that the writer's rule asks for.

* `Binary64.shortest`: the digits as a number, and the power of ten they are multiplied by;
* `Binary64.writePlain`: the digits without an exponent; of two equally near the upper ones.
-/

import Paydesk.Binary64.Basic
import Paydesk.Text.Ascii

namespace Paydesk.Binary64

/-- Which of two points stands for a double midway between them. -/
inductive Tie where
  | toEven
  | up
  deriving DecidableEq

/-- The interval of reals that round to a double: its ends and the double itself over one
denominator, and whether the ends belong to it. -/
structure Interval where
  lower : Nat
  middle : Nat
  upper : Nat
  denominator : Nat
  closed : Bool

/-- The interval of a double; below a power of two the gap is half as wide. -/
def interval (number : Binary64) : Interval :=
  let scale := Nat.pow 2 number.exponent.toNat
  let narrow := number.mantissa == Nat.pow 2 52 && decide (minExponent < number.exponent)
  { lower := (4 * number.mantissa - if narrow then 1 else 2) * scale
    middle := 4 * number.mantissa * scale
    upper := (4 * number.mantissa + 2) * scale
    denominator := 4 * number.denominator
    closed := number.mantissa % 2 == 0 }

/-- Whether a fraction lies in an interval. -/
def Interval.holds (interval : Interval) (num den : Nat) : Bool :=
  let value := num * interval.denominator
  if interval.closed then interval.lower * den ≤ value && value ≤ interval.upper * den
  else interval.lower * den < value && value < interval.upper * den

/-- The numerator and denominator of ten to a power. -/
def tenTo (power : Int) : Nat × Nat := (Nat.pow 10 power.toNat, Nat.pow 10 (-power).toNat)

/-- The point of a grid of powers of ten that stands for the interval's double, if one does. -/
def Interval.gridPoint? (interval : Interval) (tie : Tie) (power : Int) : Option Nat :=
  let (ten, tenth) := tenTo power
  let below := interval.middle * tenth / (interval.denominator * ten)
  let above := below + 1
  let twice := 2 * interval.middle * tenth
  let center := (below + above) * interval.denominator * ten
  let belowHolds := interval.holds (below * ten) tenth
  let aboveHolds := interval.holds (above * ten) tenth
  if belowHolds && aboveHolds then
    if twice < center then some below
    else if center < twice then some above
    else
      match tie with
      | .toEven => some (below + below % 2)
      | .up => some above
  else if belowHolds then some below
  else if aboveHolds then some above
  else none

/-- The number of places before the point of a fraction, counted from its first digit other than
zero. -/
def decimalPlaces (num den : Nat) : Int :=
  let guess : Int := ((digitCount num : Int) - (digitCount den : Int))
  let (ten, tenth) := tenTo guess
  if num * tenth < den * ten then guess else guess + 1
where
  /-- How many decimal digits a number has. -/
  digitCount (number : Nat) : Nat := (Text.digits number).length

/-- The first grid with a point in the interval, trying so many grids from a power of ten down. -/
def Interval.search (interval : Interval) (tie : Tie) : Nat → Int → Nat × Int
  | 0, power => (interval.middle / interval.denominator, power)
  | count + 1, power =>
    match interval.gridPoint? tie power with
    | some point => (point, power)
    | none => interval.search tie count (power - 1)

/-- Digits without zeros at their end. -/
def stripZeros : Nat → Nat → Int → Nat × Int
  | 0, number, power => (number, power)
  | count + 1, number, power =>
    if number % 10 = 0 then stripZeros count (number / 10) (power + 1) else (number, power)

/-- The fewest digits that read back as a double other than zero, and their power of ten. -/
def shortest (number : Binary64) (tie : Tie) : Nat × Int :=
  let interval := number.interval
  let places := decimalPlaces interval.middle interval.denominator
  let (point, power) := interval.search tie 18 (places - 1)
  stripZeros 20 point power

/-- The digits of a double before and after the point, without an exponent; of two equally short
and equally near the upper ones. -/
def writePlain (number : Binary64) : String :=
  let magnitude :=
    if number.isZero then ['0']
    else
      let (point, power) := number.shortest .up
      if 0 ≤ power then Text.digits point ++ List.replicate power.toNat '0'
      else
        let places := (-power).toNat
        let chars := Text.padZeros (places + 1) (Text.digits point)
        chars.take (chars.length - places) ++ '.' :: chars.drop (chars.length - places)
  String.ofList (if number.negative then '-' :: magnitude else magnitude)

end Paydesk.Binary64
