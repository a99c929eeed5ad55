/-
**Sums and products of decimals.**

Each result is the exact one if it is within bounds; else it is rounded to the most places that
fit, a half to the even neighbour, and it is missing if even its whole part is too large.

* `Decimal.add?`, `Decimal.sub?`: at the larger of the two scales;
* `Decimal.mul?`: at the sum of the two scales;
* `Decimal.add?_scale_le`, `Decimal.sub?_scale_le`: neither sum nor difference adds places.
-/

import Paydesk.Decimal.Basic

namespace Paydesk.Decimal

/-- The sum of two decimals neither of which is zero. -/
def addAligned (first second : Decimal) : Option Decimal :=
  let scale := max first.scale second.scale
  let sum := first.signedCoefficient * Nat.pow 10 (scale - first.scale)
    + second.signedCoefficient * Nat.pow 10 (scale - second.scale)
  fit (sum < 0) sum.natAbs (Nat.pow 10 scale) scale
    (Nat.max_le.mpr ⟨first.scale_le, second.scale_le⟩)

/-- The sum; adding nothing keeps the other summand as it is. -/
def add? (first second : Decimal) : Option Decimal :=
  if first.isZero then some second
  else if second.isZero then some first
  else addAligned first second

/-- The difference; taking nothing away keeps the first number as it is. -/
def sub? (first second : Decimal) : Option Decimal :=
  if second.isZero then some (if first.isZero then second else first)
  else if first.isZero then some second.neg
  else addAligned first second.neg

/-- The product. -/
def mul? (first second : Decimal) : Option Decimal :=
  if first.isZero || second.isZero then some zero
  else
    fit (first.negative != second.negative) (first.coefficient * second.coefficient)
      (Nat.pow 10 (first.scale + second.scale)) (min (first.scale + second.scale) maxScale)
      (Nat.min_le_right _ _)

/-! ### Places of the results -/

theorem fit_scale_le {negative : Bool} {num den scale : Nat} {short : scale ≤ maxScale}
    {result : Decimal} (found : fit negative num den scale short = some result) :
    result.scale ≤ scale := by
  induction scale with
  | zero =>
    unfold fit ofParts? at found
    split at found
    · cases found; exact Nat.le_refl _
    · cases found
  | succ scale hypothesis =>
    unfold fit at found
    dsimp only at found
    split at found
    · cases found; exact Nat.le_refl _
    · exact Nat.le_succ_of_le (hypothesis found)

theorem add?_scale_le {first second result : Decimal} {places : Nat}
    (firstShort : first.scale ≤ places) (secondShort : second.scale ≤ places)
    (found : first.add? second = some result) : result.scale ≤ places := by
  unfold add? at found
  split at found
  · cases found; exact secondShort
  · split at found
    · cases found; exact firstShort
    · exact Nat.le_trans (fit_scale_le found) (Nat.max_le.mpr ⟨firstShort, secondShort⟩)

theorem sub?_scale_le {first second result : Decimal} {places : Nat}
    (firstShort : first.scale ≤ places) (secondShort : second.scale ≤ places)
    (found : first.sub? second = some result) : result.scale ≤ places := by
  unfold sub? at found
  split at found
  · cases found; split <;> assumption
  · split at found
    · cases found; exact secondShort
    · exact Nat.le_trans (fit_scale_le found) (Nat.max_le.mpr ⟨firstShort, secondShort⟩)

end Paydesk.Decimal
