/-
**Decimals of bounded size.**

A decimal is a sign, a coefficient below `2 ^ 96` and a scale of at most 28 places; it stands for
the coefficient divided by ten to the scale. Several decimals may have one value: trailing zeros
and the sign of zero are kept, but the order `compare` sees the value only.

* `Decimal.ofParts?`: the decimal of given parts, if they are within bounds;
* `Decimal.fit`: the decimal nearest to a quotient, with as many places as the bounds allow;
* `Decimal.cut`, `Decimal.round`: rounding to a number of places, a half away from zero;
* `Decimal.padTo`: appending zeros up to a number of places while they fit.
-/

import Paydesk.Decimal.Rounding

namespace Paydesk

namespace Decimal

/-- Coefficients lie below this. -/
def limit : Nat := Nat.pow 2 96

/-- Scales lie at or below this. -/
def maxScale : Nat := 28

end Decimal

/-- A decimal number of at most 96 bits and 28 places. -/
structure Decimal where
  negative : Bool
  coefficient : Nat
  scale : Nat
  coefficient_lt : coefficient < Decimal.limit
  scale_le : scale ≤ Decimal.maxScale
  deriving DecidableEq

namespace Decimal

/-- Nothing, without places. -/
def zero : Decimal := ⟨false, 0, 0, by decide, Nat.zero_le _⟩

instance : Inhabited Decimal := ⟨zero⟩

/-- A coefficient and a scale with a sign; zero has no sign. -/
def ofParts (negative : Bool) (coefficient scale : Nat) (small : coefficient < limit)
    (short : scale ≤ maxScale) : Decimal :=
  ⟨negative && coefficient != 0, coefficient, scale, small, short⟩

/-- The decimal of given parts, if they are within bounds. -/
def ofParts? (negative : Bool) (coefficient scale : Nat) : Option Decimal :=
  if bounds : coefficient < limit ∧ scale ≤ maxScale then
    some (ofParts negative coefficient scale bounds.1 bounds.2)
  else none

/-- A whole number, if it is within bounds. -/
def ofInt? (number : Int) : Option Decimal := ofParts? (number < 0) number.natAbs 0

/-- The coefficient with the sign. -/
def signedCoefficient (decimal : Decimal) : Int :=
  if decimal.negative then -(decimal.coefficient : Int) else decimal.coefficient

def isZero (decimal : Decimal) : Bool := decimal.coefficient == 0

/-- Whether the value is above zero. -/
def isPositive (decimal : Decimal) : Bool := !decimal.negative && decimal.coefficient != 0

/-- Whether the value is below zero. -/
def isNegative (decimal : Decimal) : Bool := decimal.negative && decimal.coefficient != 0

/-- The order of two values. -/
def order (first second : Decimal) : Ordering :=
  compare (first.signedCoefficient * Nat.pow 10 second.scale)
    (second.signedCoefficient * Nat.pow 10 first.scale)

instance : Ord Decimal := ⟨order⟩

/-- Whether two decimals have one value. -/
def sameValue (first second : Decimal) : Bool := first.order second == .eq

/-- The opposite value; zero changes its sign too. -/
def neg (decimal : Decimal) : Decimal := { decimal with negative := !decimal.negative }

instance : Neg Decimal := ⟨neg⟩

/-- The decimal nearest to `num / den` with the most places, at most `scale`, that its coefficient
can hold; a half goes to the even neighbour. There is none if the whole part alone is too large. -/
def fit (negative : Bool) (num den : Nat) : (scale : Nat) → scale ≤ maxScale → Option Decimal
  | 0, _ => ofParts? negative (quotientHalfEven num den) 0
  | scale + 1, short =>
    let coefficient := quotientHalfEven (num * Nat.pow 10 (scale + 1)) den
    if small : coefficient < limit then
      some (ofParts negative coefficient (scale + 1) small short)
    else fit negative num den scale (Nat.le_of_succ_le short)

/-- Drops the places past a number of them, a half away from zero; the sign is kept. -/
def cut (decimal : Decimal) (places : Nat) : Decimal :=
  if more : places < decimal.scale then
    ⟨decimal.negative,
      quotientHalfUp decimal.coefficient (Nat.pow 10 (decimal.scale - places)), places,
      Nat.lt_of_le_of_lt
        (quotientHalfUp_le _ (Nat.le_trans (by decide : 2 ≤ Nat.pow 10 1)
          (Nat.pow_le_pow_right (by decide) (by omega))))
        decimal.coefficient_lt,
      Nat.le_trans (Nat.le_of_lt more) decimal.scale_le⟩
  else decimal

theorem cut_scale_le (decimal : Decimal) (places : Nat) :
    (decimal.cut places).scale ≤ places := by
  unfold cut
  split
  · exact Nat.le_refl _
  · omega

/-- Rounds to a number of places, a half away from zero; a number that becomes zero by this loses
its sign, and fewer places are left as they are. -/
def round (decimal : Decimal) (places : Nat) : Decimal :=
  let kept := decimal.cut places
  { kept with negative := kept.negative && (decimal.isZero || !kept.isZero) }

theorem round_scale_le (decimal : Decimal) (places : Nat) :
    (decimal.round places).scale ≤ places :=
  decimal.cut_scale_le places

/-- Appends zeros while they fit. -/
def pad (decimal : Decimal) : Nat → Decimal
  | 0 => decimal
  | count + 1 =>
    if room : decimal.coefficient * 10 < limit ∧ decimal.scale < maxScale then
      pad ⟨decimal.negative, decimal.coefficient * 10, decimal.scale + 1, room.1, room.2⟩ count
    else decimal

theorem pad_scale_le (decimal : Decimal) (count : Nat) :
    (decimal.pad count).scale ≤ decimal.scale + count := by
  induction count generalizing decimal with
  | zero => exact Nat.le_refl _
  | succ count hypothesis =>
    unfold pad
    split
    · have bound := hypothesis
        ⟨decimal.negative, decimal.coefficient * 10, decimal.scale + 1, by omega, by omega⟩
      simp only at bound
      omega
    · omega

/-- Appends zeros up to a number of places, as far as they fit. -/
def padTo (decimal : Decimal) (places : Nat) : Decimal := decimal.pad (places - decimal.scale)

theorem padTo_scale_le {decimal : Decimal} {places : Nat} (short : decimal.scale ≤ places) :
    (decimal.padTo places).scale ≤ places := by
  have bound := decimal.pad_scale_le (places - decimal.scale)
  unfold padTo
  omega

/-- Strips trailing zeros after the point. -/
def trim (decimal : Decimal) : Decimal :=
  strip decimal.scale decimal.coefficient decimal.coefficient_lt decimal.scale_le
where
  /-- Strips zeros from a coefficient with this many places. -/
  strip : (scale : Nat) → (coefficient : Nat) → coefficient < limit → scale ≤ maxScale → Decimal
    | 0, coefficient, small, short => ⟨decimal.negative, coefficient, 0, small, short⟩
    | scale + 1, coefficient, small, short =>
      if coefficient % 10 = 0 then
        strip scale (coefficient / 10) (Nat.lt_of_le_of_lt (Nat.div_le_self _ _) small)
          (Nat.le_of_succ_le short)
      else ⟨decimal.negative, coefficient, scale + 1, small, short⟩

end Decimal

end Paydesk
