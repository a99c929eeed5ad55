/-
**Decimals as whole numbers of one unit.**

No decimal has more than 28 places, so each is a whole number of the unit `10 ^ -28`. The order of
decimals, which multiplies crosswise, is the order of these numbers.

* `Decimal.order_eq_compare_units`: **decimals compare as their numbers of units**;
* `Std.TransOrd Decimal`, `Std.TransOrd Amount`: so their orders are total and transitive.
-/

import Mathlib.Order.Compare
import Mathlib.Algebra.Order.Ring.Int
import Paydesk.Proofs.Decimal.Value

namespace Paydesk

namespace Decimal

/-- How many times `10 ^ -28` a decimal is. -/
def units (decimal : Decimal) : Int :=
  decimal.signedCoefficient * 10 ^ (maxScale - decimal.scale)

theorem units_mul (decimal : Decimal) (more : Nat) :
    decimal.units * 10 ^ (decimal.scale + more)
      = decimal.signedCoefficient * 10 ^ more * 10 ^ maxScale := by
  have split : maxScale = maxScale - decimal.scale + decimal.scale :=
    (Nat.sub_add_cancel decimal.scale_le).symm
  calc decimal.units * 10 ^ (decimal.scale + more)
      = decimal.signedCoefficient * 10 ^ more
          * 10 ^ (maxScale - decimal.scale + decimal.scale) := by unfold units; ring
    _ = decimal.signedCoefficient * 10 ^ more * 10 ^ maxScale := by rw [← split]

/-- Two numbers compare as they do when both are multiplied by one positive number. -/
theorem compare_mul_right {factor : Int} (positive : 0 < factor) (first second : Int) :
    compare (first * factor) (second * factor) = compare first second := by
  have grows : StrictMono fun number : Int => number * factor := fun _ _ less =>
    Int.mul_lt_mul_of_pos_right less positive
  rw [← cmp_eq_compare, ← cmp_eq_compare]
  exact grows.cmp_map_eq first second

/-- **Decimals compare as their numbers of units.** -/
theorem order_eq_compare_units (first second : Decimal) :
    first.order second = compare first.units second.units := by
  have unit : (0 : Int) < 10 ^ maxScale := pow_pos (by decide) _
  have scales : (0 : Int) < 10 ^ (first.scale + second.scale) := pow_pos (by decide) _
  unfold order
  rw [Nat.pow_eq, Nat.pow_eq, Nat.cast_pow, Nat.cast_pow]
  calc compare (first.signedCoefficient * 10 ^ second.scale)
        (second.signedCoefficient * 10 ^ first.scale)
      = compare (first.signedCoefficient * 10 ^ second.scale * 10 ^ maxScale)
          (second.signedCoefficient * 10 ^ first.scale * 10 ^ maxScale) :=
        (compare_mul_right unit _ _).symm
    _ = compare (first.units * 10 ^ (first.scale + second.scale))
          (second.units * 10 ^ (first.scale + second.scale)) := by
        rw [units_mul first, Nat.add_comm first.scale second.scale, units_mul second]
    _ = compare first.units second.units := compare_mul_right scales _ _

instance : Std.TransOrd Decimal where
  eq_swap {first second} := by
    show first.order second = (second.order first).swap
    rw [order_eq_compare_units, order_eq_compare_units]
    exact Std.OrientedCmp.eq_swap
  isLE_trans {first second third} lower upper := by
    change (first.order second).isLE at lower
    change (second.order third).isLE at upper
    show (first.order third).isLE
    rw [order_eq_compare_units] at lower upper ⊢
    exact Std.TransCmp.isLE_trans lower upper

end Decimal

instance : Std.TransOrd Amount :=
  inferInstanceAs (Std.TransCmp (compareOn Amount.value))

end Paydesk
