/-
**Rounding to cents.**

Every decimal has an amount: the number of cents nearest to it, a half away from zero. It shows two
places unless it has no room for them, and near the largest decimals, where it has not, nothing is
lost. So rounding a second time does nothing, a larger decimal is not rounded to less, and rounding
looks the same on both sides of zero.

* `Amount.round_neg`: opposite decimals are rounded to opposite amounts;
* `Amount.round_mono`: a larger decimal is not rounded to less;
* `Amount.rounds_to_cents`: **the amount of a decimal**.
-/

import Paydesk.Proofs.Decimal.Cents
import Paydesk.Proofs.Decimal.Fraction

namespace Paydesk.Amount

open Decimal (limit)

variable {first second : Decimal}

/-- Amounts compare as their values. -/
theorem isLE_compare_iff_toRat {amount other : Amount} :
    (compare amount other).isLE ↔ amount.toRat ≤ other.toRat :=
  Decimal.isLE_compare_iff_toRat

/-- A number that becomes zero loses its sign, so the two amounts are one value and may differ in
the sign of zero. -/
theorem round_neg (value : Decimal) : (round (-value)).sameValue (-round value) := by
  have opposite : (round (-value)).toRat = (-round value).toRat :=
    calc (round (-value)).toRat = nearest 2 (-value.toRat) := by
          rw [toRat_round]
          exact congrArg (nearest 2) value.toRat_neg
      _ = -(round value).toRat := by rw [nearest_neg, toRat_round]
      _ = (-round value).toRat := (round value).value.toRat_neg.symm
  exact Decimal.sameValue_iff_toRat.mpr opposite

theorem round_mono (le : (compare first second).isLE) :
    (compare (round first) (round second)).isLE := by
  rw [isLE_compare_iff_toRat, toRat_round, toRat_round]
  exact nearest_mono 2 (Decimal.isLE_compare_iff_toRat.mp le)

/-- **The amount of a decimal.** For every decimal, however large and with however many places:

* the amount is the decimal rounded to two places once, a half away from zero;
* it shows two places, unless its coefficient has no room for another digit;
* rounding it again changes nothing;
* the opposite decimal has the opposite amount;
* no larger decimal has a smaller amount. -/
theorem rounds_to_cents (value other : Decimal) :
    (round value).toRat = nearest 2 value.toRat
      ∧ ((round value).value.scale = places ∨ limit ≤ (round value).value.coefficient * 10)
      ∧ round (round value).value = round value
      ∧ (round (-value)).sameValue (-round value)
      ∧ ((compare value other).isLE → (compare (round value) (round other)).isLE) :=
  ⟨toRat_round value, round_scale value, round_value_round value, round_neg value, round_mono⟩

/-- Half a cent of debt, and the largest decimal with one place: the one becomes a cent of debt, the
other has no room for a second place and keeps its value. -/
theorem rounds_to_cents_halfCent :
    let debt : Decimal := ⟨true, 5, 3, by decide, by decide⟩
    let most : Decimal := ⟨false, limit - 1, 1, by decide, by decide⟩
    (compare debt most).isLE ∧ (compare (round debt) (round most)).isLE
      ∧ (round debt).toRat = nearest 2 (-5 / 1000) ∧ round debt = -round debt.neg
      ∧ (round most).value = most ∧ (round most).toRat = nearest 2 most.toRat := by
  intro debt most
  have order : (compare debt most).isLE := by decide
  obtain ⟨nearest_debt, -, -, -, mono⟩ := rounds_to_cents debt most
  obtain ⟨nearest_most, -⟩ := rounds_to_cents most debt
  have debt_eq : debt.toRat = -5 / 1000 := by
    rw [Decimal.toRat, (by decide : debt.signedCoefficient = -5)]
    norm_num [debt]
  exact ⟨order, mono order, debt_eq ▸ nearest_debt, by decide, by decide, nearest_most⟩

end Paydesk.Amount
