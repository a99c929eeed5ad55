/-
**Numbers in documents.**

A number without fraction and exponent that fits 64 bits is whole. Any other is a double, made from
the digits that fit an unsigned number of 64 bits and a power of ten, each rounded on its own.

* `Numeral.value?`: the number that a numeral's parts stand for;
* `Binary64.writeShort`: a double with the fewest digits, with an exponent from `10 ^ 16` upwards
  and below `10 ^ (-5)`.
-/

import Paydesk.Binary64.Shortest
import Paydesk.Json.Basic
import Paydesk.Text.Integer

namespace Paydesk

/-- The parts of a numeral: whole digits, digits after a point, and an exponent. -/
structure Numeral where
  negative : Bool
  whole : List Char
  fraction : Option (List Char)
  exponent : Option Int

namespace Numeral

/-- Digits above this are not added to a significand. -/
def maxSignificand : Nat := Nat.pow 2 64 - 1

/-- The value of leading digits while they fit, and how many digits were left out. -/
def takeDigits (significand : Nat) : List Char → Nat × Nat
  | [] => (significand, 0)
  | char :: rest =>
    let next := significand * 10 + (Text.digitValue? char).getD 0
    if next ≤ maxSignificand then takeDigits next rest else (significand, rest.length + 1)

/-- A double divided by powers of ten; past the greatest power the division goes in steps. -/
def divideByTen (number : Binary64) : Nat → Nat → Option Binary64
  | 0, power => do number.div? (← Binary64.powerOfTen? (min power 308))
  | steps + 1, power => do
    if power ≤ 308 then number.div? (← Binary64.powerOfTen? power)
    else if number.isZero then some number
    else divideByTen (← number.div? (← Binary64.powerOfTen? 308)) steps (power - 308)

/-- A significand times a power of ten as a double, if it is finite. -/
def scaled? (significand : Nat) (power : Int) : Option Binary64 := do
  let number ← Binary64.ofNat? significand
  if number.isZero then some number
  else if 0 ≤ power then
    if power ≤ 308 then number.mul? (← Binary64.powerOfTen? power.toNat) else none
  else divideByTen number 4 (-power).toNat

/-- The double of a numeral, if it is finite. -/
def float? (numeral : Numeral) : Option Binary64 := do
  let (whole, omitted) := takeDigits 0 numeral.whole
  let (significand, power) :=
    match numeral.fraction with
    | none => (whole, (omitted : Int))
    | some digits =>
      let (significand, ignored) := takeDigits whole digits
      (significand, (omitted : Int) - ((digits.length - ignored : Nat) : Int))
  let magnitude ← scaled? significand (power + numeral.exponent.getD 0)
  return if numeral.negative then magnitude.neg else magnitude

/-- The number of a numeral, if it has one. -/
def value? (numeral : Numeral) : Option Json :=
  let whole : Option Int := do
    if numeral.fraction.isSome || numeral.exponent.isSome then none
    else
      let magnitude ← Text.natOfDigits? numeral.whole
      if numeral.negative then
        if 0 < magnitude ∧ magnitude ≤ Nat.pow 2 63 then some (-(magnitude : Int)) else none
      else if magnitude ≤ maxSignificand then some (magnitude : Int)
      else none
  match whole with
  | some number => some (.int number)
  | none => numeral.float?.map .float

end Numeral

/-- A double with the fewest digits that read back: positional with at least one digit on either
side of the point where it is below `10 ^ 16` and not below `10 ^ (-5)`, else with an exponent. -/
def Binary64.writeShort (number : Binary64) : String :=
  let magnitude :=
    if number.isZero then ['0', '.', '0']
    else
      let (point, power) := number.shortest .toEven
      let chars := Text.digits point
      let places : Int := (chars.length : Int) + power
      if 0 ≤ power ∧ places ≤ 16 then
        chars ++ List.replicate power.toNat '0' ++ ['.', '0']
      else if 0 < places ∧ places ≤ 16 then
        chars.take places.toNat ++ '.' :: chars.drop places.toNat
      else if -5 < places ∧ places ≤ 0 then
        '0' :: '.' :: (List.replicate (-places).toNat '0' ++ chars)
      else
        let exponent := 'e' :: (Text.writeInt (places - 1)).toList
        match chars with
        | first :: second :: rest => first :: '.' :: second :: (rest ++ exponent)
        | single => single ++ exponent
  String.ofList (if number.negative then '-' :: magnitude else magnitude)

end Paydesk
