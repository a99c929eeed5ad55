/-
**Sums in any sequence.**

A total is added up from the first amount to the last. As long as every sum on the way is a number
that some amount is, nothing is lost, and it does not matter in which sequence this happens. Which
sums are met on the way does depend on the sequence, so one sequence may stop with an overflow where
another one has a total.

* `Amount.exactSum`, `Amount.SumsHeld`: the exact sum of amounts, and sums on the way that are held;
* `Amount.exists_sum_of_sumsHeld`: **a total is exact while the sums on the way are held**;
* `Amount.sum_eq_error`: **it stops at a sum that is too large**;
* `Amount.sumsHeld_of_perm`: what is held in any sequence;
* `Amount.sums_exact_while_held`: **totals of any amounts, in any sequence**;
* `Amount.sums_past_what_is_held`: sums that no amount is, and sequences that differ.
-/

import Paydesk.Proofs.Decimal.Sum
import Paydesk.Report.Figures

namespace Paydesk.Amount

open Decimal (limit)

variable {amounts others : List Amount}

/-! ### Sums on the way -/

/-- The exact sum of amounts. -/
def exactSum (amounts : List Amount) : ℚ := (amounts.map toRat).sum

/-- Every sum on the way through amounts, from the first of them on, is a number that some amount
is. -/
def SumsHeld (amounts : List Amount) : Prop := ∀ taken ∈ amounts.inits, IsHeld (exactSum taken)

@[simp] theorem exactSum_nil : exactSum [] = 0 := rfl

@[simp] theorem exactSum_cons (amount : Amount) (amounts : List Amount) :
    exactSum (amount :: amounts) = amount.toRat + exactSum amounts := by
  simp [exactSum]

theorem exactSum_append (amounts others : List Amount) :
    exactSum (amounts ++ others) = exactSum amounts + exactSum others := by
  simp [exactSum]

theorem exactSum_perm (same : amounts.Perm others) : exactSum amounts = exactSum others :=
  (same.map toRat).sum_eq

theorem toRat_zero : zero.toRat = 0 := by
  rw [toRat_eq_minor, (by decide : zero.minor = 0), Int.cast_zero, zero_div]

/-- **A total is exact while the sums on the way are held.** -/
theorem exists_sum_of_sumsHeld (held : SumsHeld amounts) :
    ∃ total, sum amounts = .ok total ∧ total.toRat = exactSum amounts :=
  exists_sum IsHeld (fun _ _ => exists_add_of_isHeld) toRat_zero held

/-- **A total stops at a sum that is too large**, where the sums before it are held. -/
theorem sum_eq_error {before after : List Amount} {amount : Amount} (held : SumsHeld before)
    (large : limit - 1 / 2 ≤ |exactSum (before ++ [amount])|) :
    sum (before ++ amount :: after) = .error .addition := by
  obtain ⟨part, summed, exact_part⟩ := exists_sum_of_sumsHeld held
  have overflow : part.add amount = .error .addition := by
    rw [add_eq_error_iff, exact_part]
    rwa [exactSum_append, exactSum_cons, exactSum_nil, add_zero] at large
  unfold sum at summed ⊢
  rw [List.foldlM_append, summed]
  change (amount :: after).foldlM add part = _
  rw [List.foldlM_cons, overflow]
  rfl

/-! ### Any sequence -/

theorem exactSum_eq_minorSum (amounts : List Amount) : exactSum amounts = minorSum amounts / 100 := by
  induction amounts with
  | nil => simp
  | cons amount rest hypothesis =>
    rw [exactSum_cons, minorSum_cons, hypothesis, toRat_eq_minor, ← add_div]
    push_cast
    rfl

/-- Cents that a coefficient has room for are held. -/
theorem isHeld_of_cents {cents : Int} (small : cents.natAbs < limit) : IsHeld (cents / 100) := by
  let value : Decimal := .ofParts (cents < 0) cents.natAbs places small (by decide)
  refine ⟨⟨value, Nat.le_refl _⟩, ?_⟩
  have digits : value.signedCoefficient = cents := Decimal.signedCoefficient_ofParts small _
  change (value.signedCoefficient : ℚ) / 10 ^ places = cents / 100
  rw [digits]
  norm_num [places]

/-- What some of the amounts are together is no more than all of those above zero. -/
theorem sum_le_of_sublist (number : Amount → Int) (part : others.Sublist amounts) :
    (others.map number).sum ≤ (amounts.map fun amount => (number amount).toNat).sum := by
  induction part with
  | slnil => exact le_rfl
  | cons amount _ hypothesis =>
    rw [List.map_cons, List.sum_cons]
    omega
  | cons_cons amount _ hypothesis =>
    rw [List.map_cons, List.map_cons, List.sum_cons, List.sum_cons]
    omega

/-- **Where there is room for all that is added, and for all that is taken off, the sums on the way
are held in any sequence.** -/
theorem sumsHeld_of_perm (added : (amounts.map (·.minor.toNat)).sum < limit)
    (taken_off : (amounts.map fun amount => (-amount.minor).toNat).sum < limit)
    (same : amounts.Perm others) : SumsHeld others := by
  intro taken isPrefix
  have part : taken.Sublist others := ((List.mem_inits _ _).mp isPrefix).sublist
  have most := sum_le_of_sublist minor part
  have least := sum_le_of_sublist (fun amount => -amount.minor) part
  rw [← (same.map fun amount => amount.minor.toNat).sum_eq] at most
  rw [← (same.map fun amount => (-amount.minor).toNat).sum_eq] at least
  have opposite : (taken.map fun amount => -amount.minor).sum = -minorSum taken := by
    rw [minorSum, List.sum_neg, List.map_map]
    rfl
  rw [opposite] at least
  rw [exactSum_eq_minorSum]
  apply isHeld_of_cents
  change minorSum taken ≤ _ at most
  omega

/-- A summary overflows where the total of its amounts does, and else it shows that total. -/
theorem total_ofAmounts (amounts : List Amount) :
    (Summary.ofAmounts amounts).map (·.total) = sum amounts := by
  unfold Summary.ofAmounts
  cases sum amounts <;> rfl

/-! ### Totals -/

/-- **Totals of amounts.** For every list of amounts:

* a summary of them has their sum as its total, or overflows as it does;
* the sum is the exact sum if the sums on the way are held;
* it overflows at the first sum on the way that is too large, where those before it are held;
* two sequences of the amounts have the same total if the sums on the way of both are held;
* the sums on the way are held in every sequence if there is room for the cents of all amounts above
  zero together, and for those of all amounts below zero.

For every two amounts, the difference is exact if some amount is, and it overflows if and only if it
is too large. -/
theorem sums_exact_while_held (amounts : List Amount) :
    (Summary.ofAmounts amounts).map (·.total) = sum amounts
      ∧ (SumsHeld amounts → ∃ total, sum amounts = .ok total ∧ total.toRat = exactSum amounts)
      ∧ (∀ before amount after, amounts = before ++ amount :: after → SumsHeld before →
        limit - 1 / 2 ≤ |exactSum (before ++ [amount])| → sum amounts = .error .addition)
      ∧ (∀ others, amounts.Perm others → SumsHeld amounts → SumsHeld others →
        ∃ total other, sum amounts = .ok total ∧ sum others = .ok other ∧ total.sameValue other)
      ∧ ((amounts.map (·.minor.toNat)).sum < limit →
        (amounts.map fun amount => (-amount.minor).toNat).sum < limit →
        ∀ others, amounts.Perm others → SumsHeld others)
      ∧ ∀ first second : Amount,
        (IsHeld (first.toRat - second.toRat) →
          ∃ rest, first.sub second = .ok rest ∧ rest.toRat = first.toRat - second.toRat)
        ∧ (first.sub second = .error .subtraction ↔ limit - 1 / 2 ≤ |first.toRat - second.toRat|) := by
  refine ⟨total_ofAmounts amounts, exists_sum_of_sumsHeld, ?_, ?_,
    fun added taken_off others => sumsHeld_of_perm added taken_off,
    fun first second => ⟨exists_sub_of_isHeld, sub_eq_error_iff⟩⟩
  · rintro before amount after rfl held large
    exact sum_eq_error held large
  · intro others same held held_other
    obtain ⟨total, summed, exact_total⟩ := exists_sum_of_sumsHeld held
    obtain ⟨other, summed_other, exact_other⟩ := exists_sum_of_sumsHeld held_other
    refine ⟨total, other, summed, summed_other, Decimal.sameValue_iff_toRat.mpr ?_⟩
    exact exact_total.trans ((exactSum_perm same).trans exact_other.symm)

/-- A payment, a refund and a fee in two sequences; and the largest amount and one more, which is
too much for a sum and, taken off the largest debt, for a difference. -/
theorem sums_exact_while_held_refund :
    let amounts := [ofMinor 10000, ofMinor (-3050), ofMinor 25]
    let others := [ofMinor 25, ofMinor (-3050), ofMinor 10000]
    let most := round ⟨false, limit - 1, 0, by decide, by decide⟩
    let one := round ⟨false, 1, 0, by decide, by decide⟩
    (SumsHeld amounts ∧ SumsHeld others
        ∧ (∃ total, sum amounts = .ok total ∧ total.toRat = exactSum amounts)
        ∧ ∃ total other, sum amounts = .ok total ∧ sum others = .ok other ∧ total.sameValue other)
      ∧ (SumsHeld [most] ∧ limit - 1 / 2 ≤ |exactSum [most, one]|
        ∧ sum [most, one] = .error .addition)
      ∧ (∃ rest, most.sub one = .ok rest ∧ rest.toRat = most.toRat - one.toRat)
      ∧ (-most).sub one = .error .subtraction := by
  intro amounts others most one
  obtain ⟨-, total, -, sequences, room, -⟩ := sums_exact_while_held amounts
  have held := room (by decide) (by decide)
  have reversed : amounts.Perm others := (List.reverse_perm amounts).symm
  obtain ⟨-, -, overflow, -, -, differences⟩ := sums_exact_while_held [most, one]
  have most_eq : most.toRat = limit - 1 := by
    rw [toRat_eq_minor, (by decide : most.minor = ((limit - 1 : ℕ) : ℤ) * 100)]
    push_cast [(by decide : 1 ≤ limit)]
    ring
  have one_eq : one.toRat = 1 := by
    rw [toRat_eq_minor, (by decide : one.minor = 100)]
    norm_num
  have held_rest : IsHeld (most.toRat - one.toRat) := by
    refine ⟨round ⟨false, limit - 2, 0, by decide, by decide⟩, ?_⟩
    rw [toRat_eq_minor, (by decide : minor _ = ((limit - 2 : ℕ) : ℤ) * 100), most_eq, one_eq]
    push_cast [(by decide : 2 ≤ limit)]
    ring
  have held_most : SumsHeld [most] := by
    intro taken isPrefix
    have cases : taken = [] ∨ taken = [most] := by simpa [List.inits] using isPrefix
    rcases cases with rfl | rfl
    · exact ⟨zero, toRat_zero⟩
    · exact ⟨most, by simp⟩
  have sum_eq : exactSum [most, one] = limit := by
    rw [exactSum_cons, exactSum_cons, exactSum_nil, most_eq, one_eq]
    ring
  have large : (limit - 1 / 2 : ℚ) ≤ |exactSum [most, one]| := by
    rw [sum_eq, Nat.abs_cast]
    linarith
  refine ⟨⟨held amounts (.refl _), held others reversed, total (held amounts (.refl _)),
    sequences others reversed (held amounts (.refl _)) (held others reversed)⟩,
    ⟨held_most, large, overflow [most] one [] rfl held_most large⟩,
    (differences most one).1 held_rest, (differences (-most) one).2.mpr ?_⟩
  rw [toRat_neg, most_eq, one_eq, ← neg_add', sub_add_cancel, abs_neg, Nat.abs_cast]
  linarith

/-- **Sums that no amount is.** The largest amount and a cent have no room for the cent, and it is
lost without an overflow. The largest amount and one more overflow, unless the largest debt comes
between them. -/
theorem sums_past_what_is_held :
    let most := round ⟨false, limit - 1, 0, by decide, by decide⟩
    let debt := round ⟨true, limit - 1, 0, by decide, by decide⟩
    let one := round ⟨false, 1, 0, by decide, by decide⟩
    let cent := round ⟨false, 1, 2, by decide, by decide⟩
    (sum [most, cent] = .ok most ∧ most.toRat ≠ exactSum [most, cent])
      ∧ (debt.sub cent = .ok debt ∧ debt.toRat ≠ debt.toRat - cent.toRat)
      ∧ [most, one, debt].Perm [most, debt, one]
      ∧ sum [most, one, debt] = .error .addition ∧ sum [most, debt, one] = .ok one := by
  intro most debt one cent
  have cent_eq : cent.toRat = 1 / 100 := by
    rw [toRat_eq_minor, (by decide : cent.minor = 1)]
    norm_num
  refine ⟨⟨by decide +kernel, ?_⟩, ⟨by decide +kernel, ?_⟩, ?_, by decide +kernel, by decide +kernel⟩
  · rw [exactSum_cons, exactSum_cons, exactSum_nil, cent_eq]
    linarith
  · rw [cent_eq]
    linarith
  · exact .cons most (.swap debt one [])

end Paydesk.Amount
