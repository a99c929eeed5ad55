/-
**Quotients of decimals.**

A division goes on from the whole quotient of the coefficients by up to nine places at a time,
as many as the coefficient has room for, until nothing remains or no place is left; then the
remainder rounds the last place, a half to the even neighbour.

A quotient that was not whole at first loses zeros at its end, but not all of them: eight at a time
while the coefficient is a multiple of `2 ^ 32` too, then four, two and one, each at most once.

* `Decimal.Division.run?`: the coefficient and places of a quotient;
* `Decimal.shorten`: the coefficient and places without zeros at their end;
* `Decimal.div?`: the quotient of two decimals.
-/

import Paydesk.Decimal.Basic

namespace Paydesk.Decimal

/-- A division under way: the coefficient found so far, what remains, and its places, which are
below zero while the coefficient still lacks whole digits. -/
structure Division where
  quotient : Nat
  remainder : Nat
  scale : Int

/-- The most places, up to a number of them, that a coefficient has room for. -/
def roomFor (coefficient : Nat) : Nat → Nat
  | 0 => 0
  | places + 1 =>
    if coefficient * Nat.pow 10 (places + 1) < limit then places + 1
    else roomFor coefficient places

/-- Rounds a fraction at some places to a coefficient, a half to the even neighbour; a coefficient
that is too large gives up its last place, if there is one. -/
def settle? (num den : Nat) (scale : Int) : Option (Nat × Int) :=
  let coefficient := quotientHalfEven num den
  if coefficient < limit then some (coefficient, scale)
  else if scale ≤ 0 then none
  else some (quotientHalfEven num (10 * den), scale - 1)

/-- The coefficient and places of a quotient, in so many steps at most; there are none where the
whole part is too large. -/
def Division.run? (divisor : Nat) : Nat → Division → Option (Nat × Int)
  | 0, _ => none
  | steps + 1, ⟨quotient, remainder, scale⟩ =>
    let exact := remainder == 0
    if exact && 0 ≤ scale then some (quotient, scale)
    else
      let places :=
        if exact then min 9 (-scale).toNat
        else roomFor quotient (min 9 (maxScale - scale).toNat)
      if !exact && places == 0 && 0 ≤ scale then
        settle? (quotient * divisor + remainder) divisor scale
      else if !exact && places < 9 && scale + places < 0 then none
      else
        let extended := quotient * Nat.pow 10 places
        let carried := remainder * Nat.pow 10 places
        let next := extended + carried / divisor
        if limit ≤ extended then none
        else if limit ≤ next then
          settle? (extended * divisor + carried) divisor (scale + places)
        else run? divisor steps ⟨next, carried % divisor, scale + places⟩

/-- Drops so many zeros from the end of a coefficient with places, if they are there. -/
def dropZeros (count : Nat) (coefficient scale : Nat) : Nat × Nat :=
  if count ≤ scale ∧ coefficient % Nat.pow 10 count = 0 then
    (coefficient / Nat.pow 10 count, scale - count)
  else (coefficient, scale)

/-- Drops zeros by eights from a coefficient with places, while it is a multiple of `2 ^ 32`. -/
def dropEights : Nat → Nat → Nat → Nat × Nat
  | 0, coefficient, scale => (coefficient, scale)
  | steps + 1, coefficient, scale =>
    let (fewer, left) := dropZeros 8 coefficient scale
    if coefficient % Nat.pow 2 32 = 0 ∧ left < scale then dropEights steps fewer left
    else (coefficient, scale)

/-- Drops zeros by eights, then four, two and one of them. -/
def shorten (coefficient scale : Nat) : Nat × Nat :=
  [4, 2, 1].foldl (fun parts count => dropZeros count parts.1 parts.2)
    (dropEights scale coefficient scale)

/-- The quotient; there is none for a divisor of zero. -/
def div? (first second : Decimal) : Option Decimal :=
  if second.isZero then none
  else if first.isZero then some zero
  else do
    let start : Division :=
      { quotient := first.coefficient / second.coefficient
        remainder := first.coefficient % second.coefficient
        scale := (first.scale : Int) - second.scale }
    let (coefficient, scale) ←
      start.run? second.coefficient ((maxScale - start.scale).toNat + 1)
    let (coefficient, scale) :=
      if start.remainder = 0 then (coefficient, scale.toNat)
      else shorten coefficient scale.toNat
    ofParts? (first.negative != second.negative) coefficient scale

end Paydesk.Decimal
