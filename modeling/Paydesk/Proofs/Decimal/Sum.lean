/-
**The sum of two decimals.**

A sum has as many places as the longer of its summands, or the most of them that its coefficient has
room for, rounded once with a half to the even neighbour. So it is exact wherever some decimal is,
and there is none where the nearest whole number is past the largest decimal. Amounts are added as
their decimals are.

* `Decimal.fit_scale`, `Decimal.fit_eq_none_iff`: places for which there is no room;
* `Decimal.alignedSum`: the coefficients of two decimals at one scale, added;
* `Decimal.add?_fits`, `Decimal.add?_eq_none_iff`: **sums of decimals**;
* `Decimal.sub?_fits`, `Decimal.sub?_eq_none_iff`: **differences of decimals**;
* `Amount.IsHeld`: a number that some amount is;
* `Amount.add_cases`, `Amount.sub_cases`: the two outcomes of each;
* `Amount.exists_add_of_isHeld`, `Amount.add_eq_error_iff`: **sums of amounts**;
* `Amount.exists_sub_of_isHeld`, `Amount.sub_eq_error_iff`: **differences of amounts**.
-/

import Paydesk.Proofs.Decimal.Product

namespace Paydesk

namespace Decimal

/-! ### What does not fit -/

section Missing

variable {exact : ℚ} {negative : Bool} {num digits scale : Nat} {short : scale ≤ maxScale}
  {value : Decimal}

/-- **A fitted quotient has every place that was asked for**, or its coefficient has no room for
another digit: the limit ends in a six, so rounding does not bring a coefficient back below it. -/
theorem fit_scale {den : Nat} (positive : 0 < den)
    (found : fit negative num den scale short = some value) :
    value.scale = scale ∨ limit ≤ value.coefficient * 10 := by
  obtain ⟨few, coefficient_eq, -, most⟩ := fit_spec found
  rcases few.lt_or_eq with fewer | every
  · refine Or.inr ?_
    have no_room : limit ≤ quotientHalfEven (num * 10 ^ (value.scale + 1)) den := by
      by_contra room
      exact absurd (most _ fewer (not_le.mp room)) (by omega)
    have no_room_rat : (limit : ℚ) ≤ quotientHalfEven (num * 10 ^ (value.scale + 1)) den := by
      exact_mod_cast no_room
    have next := (quotientHalfEven_near (num * 10 ^ (value.scale + 1)) positive).2.1
    have here := (quotientHalfEven_near (num * 10 ^ value.scale) positive).1
    have tenfold : ((num * 10 ^ (value.scale + 1) : ℕ) : ℚ) / den
        = 10 * (((num * 10 ^ value.scale : ℕ) : ℚ) / den) := by
      push_cast
      ring
    rw [tenfold] at next
    rw [← coefficient_eq] at here
    have bound : (2 * limit : ℚ) ≤ 20 * value.coefficient + 11 := by linarith
    have bound_nat : 2 * limit ≤ 20 * value.coefficient + 11 := by exact_mod_cast bound
    have last_digit : limit % 10 = 6 := by decide
    omega
  · exact Or.inl every

/-- The largest coefficient is odd, so half a unit more is rounded away from it. -/
theorem odd_limit_pred : (limit - 1) % 2 = 1 := by decide

/-- **Nothing is fitted to a fraction** whose nearest whole number is past the largest decimal: only
the largest coefficient is near enough, and half a unit more is not rounded to it. -/
theorem fit_eq_none_iff (magnitude : |exact| = (num : ℚ) / (10 ^ digits : ℕ)) :
    fit negative num (10 ^ digits) scale short = none ↔ limit - 1 / 2 ≤ |exact| := by
  have positive : 0 < 10 ^ digits := Nat.pow_pos (by decide)
  rw [Option.eq_none_iff_forall_ne_some]
  constructor
  · intro missing
    by_contra inside
    have small : quotientHalfEven (num * 10 ^ 0) (10 ^ digits) < limit := by
      have close := (quotientHalfEven_near num positive).2.1
      rw [← magnitude] at close
      rw [pow_zero, Nat.mul_one]
      have bound : (quotientHalfEven num (10 ^ digits) : ℚ) < limit := by linarith
      exact_mod_cast bound
    have fitted : ∃ value, fit negative num (10 ^ digits) scale short = some value :=
      exists_fit (Nat.zero_le _) small
    obtain ⟨value, found⟩ := fitted
    exact missing value found
  · intro outside value found
    obtain ⟨-, coefficient_eq, -, -⟩ := fit_spec found
    obtain ⟨upper, -, tie⟩ := quotientHalfEven_near (num * 10 ^ value.scale) positive
    have grown : |exact| ≤ ((num * 10 ^ value.scale : ℕ) : ℚ) / (10 ^ digits : ℕ) := by
      have unit : (1 : ℚ) ≤ 10 ^ value.scale := one_le_pow₀ (by norm_num)
      rw [Nat.cast_mul, mul_comm, mul_div_assoc, ← magnitude, Nat.cast_pow, Nat.cast_ofNat]
      exact le_mul_of_one_le_left (abs_nonneg _) unit
    rw [← coefficient_eq] at upper tie
    have most := value.coefficient_le
    have largest : (value.coefficient : ℚ) = limit - 1 := by linarith
    have largest_nat : value.coefficient = limit - 1 := by
      have one : 1 ≤ limit := by decide
      rw [← Nat.cast_one, ← Nat.cast_sub one] at largest
      exact_mod_cast largest
    refine (tie (largest_nat ▸ odd_limit_pred)).1 ?_
    linarith

end Missing

/-! ### Sums -/

variable {first second value : Decimal}

/-- The coefficients of two decimals at the larger of their scales, added. -/
def alignedSum (first second : Decimal) : Int :=
  first.signedCoefficient * Nat.pow 10 (max first.scale second.scale - first.scale)
    + second.signedCoefficient * Nat.pow 10 (max first.scale second.scale - second.scale)

theorem toRat_add (first second : Decimal) : first.toRat + second.toRat
    = (first.alignedSum second : ℚ) / (10 ^ max first.scale second.scale : ℕ) := by
  have aligned (decimal : Decimal) {scale : Nat} (inside : decimal.scale ≤ scale) :
      decimal.toRat = decimal.signedCoefficient * 10 ^ (scale - decimal.scale) / 10 ^ scale := by
    have split : (10 : ℚ) ^ scale = 10 ^ (scale - decimal.scale) * 10 ^ decimal.scale := by
      rw [← pow_add, Nat.sub_add_cancel inside]
    unfold toRat
    rw [split]
    field_simp
  rw [aligned first (Nat.le_max_left _ _), aligned second (Nat.le_max_right _ _), ← add_div]
  unfold alignedSum
  push_cast [Nat.pow_eq]
  rfl

theorem abs_toRat_add (first second : Decimal) : |first.toRat + second.toRat|
    = ((first.alignedSum second).natAbs : ℚ) / (10 ^ max first.scale second.scale : ℕ) := by
  rw [toRat_add, abs_div, Nat.abs_cast, Nat.cast_natAbs, Int.cast_abs]

theorem alignedSum_neg_iff : first.alignedSum second < 0 ↔ first.toRat + second.toRat < 0 := by
  have unit : (0 : ℚ) < (10 ^ max first.scale second.scale : ℕ) := by positivity
  rw [toRat_add, div_lt_iff₀ unit, zero_mul]
  exact_mod_cast Iff.rfl

/-- **A sum fits the fraction that it stands for.** -/
theorem add?_fits (found : first.add? second = some value) :
    Fits (first.toRat + second.toRat) value := by
  unfold add? at found
  split at found
  · rename_i nothing
    cases found
    rw [toRat_eq_zero_iff.mpr nothing, zero_add]
    exact fits_self _
  · split at found
    · rename_i nothing
      cases found
      rw [toRat_eq_zero_iff.mpr nothing, add_zero]
      exact fits_self _
    · have few : max first.scale second.scale ≤ maxScale :=
        Nat.max_le.mpr ⟨first.scale_le, second.scale_le⟩
      refine fit_fits (Nat.min_eq_left few).symm (abs_toRat_add first second) ?_ found
      rw [decide_eq_true_iff]
      exact alignedSum_neg_iff

theorem abs_toRat_lt (decimal : Decimal) : |decimal.toRat| < limit - 1 / 2 := by
  have bound := decimal.abs_toRat_le
  linarith

/-- **There is no sum where the nearest whole number is past the largest decimal.** -/
theorem add?_eq_none_iff :
    first.add? second = none ↔ limit - 1 / 2 ≤ |first.toRat + second.toRat| := by
  unfold add?
  split
  · rename_i nothing
    rw [toRat_eq_zero_iff.mpr nothing, zero_add]
    exact iff_of_false (Option.some_ne_none _) second.abs_toRat_lt.not_ge
  · split
    · rename_i nothing
      rw [toRat_eq_zero_iff.mpr nothing, add_zero]
      exact iff_of_false (Option.some_ne_none _) first.abs_toRat_lt.not_ge
    · exact fit_eq_none_iff (abs_toRat_add first second)

/-! ### Differences -/

/-- Nothing taken away from nothing. -/
theorem sub?_of_isZero (first_zero : first.isZero) (second_zero : second.isZero) :
    first.sub? second = some second ∧ first.toRat - second.toRat = second.toRat := by
  constructor
  · unfold sub?
    rw [if_pos second_zero, if_pos first_zero]
  · rw [toRat_eq_zero_iff.mpr first_zero, toRat_eq_zero_iff.mpr second_zero, sub_zero]

/-- Apart from that, a difference is the sum with the opposite. -/
theorem sub?_eq_add?_neg (nonzero : ¬(first.isZero ∧ second.isZero)) :
    first.sub? second = first.add? second.neg := by
  have opposite : second.neg.isZero = second.isZero := rfl
  unfold sub? add?
  rw [opposite]
  cases left : first.isZero <;> cases right : second.isZero <;> simp_all

theorem toRat_sub (first second : Decimal) :
    first.toRat - second.toRat = first.toRat + second.neg.toRat := by
  rw [toRat_neg, sub_eq_add_neg]

/-- **A difference fits the fraction that it stands for.** -/
theorem sub?_fits (found : first.sub? second = some value) :
    Fits (first.toRat - second.toRat) value := by
  by_cases nothing : first.isZero ∧ second.isZero
  · obtain ⟨kept, same⟩ := sub?_of_isZero nothing.1 nothing.2
    cases kept.symm.trans found
    rw [same]
    exact fits_self second
  · rw [toRat_sub]
    exact add?_fits (sub?_eq_add?_neg nothing ▸ found)

/-- **There is no difference where the nearest whole number is past the largest decimal.** -/
theorem sub?_eq_none_iff :
    first.sub? second = none ↔ limit - 1 / 2 ≤ |first.toRat - second.toRat| := by
  by_cases nothing : first.isZero ∧ second.isZero
  · obtain ⟨kept, same⟩ := sub?_of_isZero nothing.1 nothing.2
    rw [kept, same]
    exact iff_of_false (Option.some_ne_none _) second.abs_toRat_lt.not_ge
  · rw [sub?_eq_add?_neg nothing, toRat_sub]
    exact add?_eq_none_iff

end Decimal

namespace Amount

open Decimal (limit Fits)

/-! ### Amounts -/

/-- Some amount is this number. -/
def IsHeld (number : ℚ) : Prop := ∃ amount : Amount, amount.toRat = number

variable {first second : Amount}

theorem toRat_neg (amount : Amount) : (-amount).toRat = -amount.toRat := amount.value.toRat_neg

/-- The two outcomes of a sum. -/
theorem add_cases (first second : Amount) :
    (∃ sum, first.add second = .ok sum ∧ first.value.add? second.value = some sum.value)
      ∨ first.add second = .error .addition ∧ first.value.add? second.value = none := by
  cases found : first.value.add? second.value with
  | some value =>
    obtain ⟨sum, added, rfl⟩ := exists_add found
    exact Or.inl ⟨sum, added, rfl⟩
  | none =>
    refine Or.inr ⟨?_, rfl⟩
    unfold add
    split
    · rename_i other
      nomatch found.symm.trans other
    · rfl

/-- The two outcomes of a difference. -/
theorem sub_cases (first second : Amount) :
    (∃ rest, first.sub second = .ok rest ∧ first.value.sub? second.value = some rest.value)
      ∨ first.sub second = .error .subtraction ∧ first.value.sub? second.value = none := by
  cases found : first.value.sub? second.value with
  | some value =>
    obtain ⟨rest, taken, rfl⟩ := exists_sub found
    exact Or.inl ⟨rest, taken, rfl⟩
  | none =>
    refine Or.inr ⟨?_, rfl⟩
    unfold sub
    split
    · rename_i other
      nomatch found.symm.trans other
    · rfl

/-- **A sum overflows where the nearest whole number is past the largest decimal.** -/
theorem add_eq_error_iff :
    first.add second = .error .addition ↔ limit - 1 / 2 ≤ |first.toRat + second.toRat| := by
  refine Iff.trans ?_ Decimal.add?_eq_none_iff
  rcases add_cases first second with ⟨sum, added, found⟩ | ⟨overflow, missing⟩
  · rw [added, found]
    exact iff_of_false (nomatch ·) (Option.some_ne_none _)
  · exact iff_of_true overflow missing

/-- **A difference overflows where the nearest whole number is past the largest decimal.** -/
theorem sub_eq_error_iff :
    first.sub second = .error .subtraction ↔ limit - 1 / 2 ≤ |first.toRat - second.toRat| := by
  refine Iff.trans ?_ Decimal.sub?_eq_none_iff
  rcases sub_cases first second with ⟨rest, taken, found⟩ | ⟨overflow, missing⟩
  · rw [taken, found]
    exact iff_of_false (nomatch ·) (Option.some_ne_none _)
  · exact iff_of_true overflow missing

/-- A number that some amount is does not overflow. -/
theorem IsHeld.abs_lt {number : ℚ} (held : IsHeld number) : |number| < limit - 1 / 2 := by
  obtain ⟨amount, rfl⟩ := held
  exact amount.value.abs_toRat_lt

/-- **A sum that some amount is comes out exactly.** -/
theorem exists_add_of_isHeld (held : IsHeld (first.toRat + second.toRat)) :
    ∃ sum, first.add second = .ok sum ∧ sum.toRat = first.toRat + second.toRat := by
  rcases add_cases first second with ⟨sum, added, found⟩ | ⟨-, missing⟩
  · obtain ⟨other, same⟩ := held
    exact ⟨sum, added, (Decimal.add?_fits found).eq_of_exists other.value same⟩
  · exact absurd (Decimal.add?_eq_none_iff.mp missing) held.abs_lt.not_ge

/-- **A difference that some amount is comes out exactly.** -/
theorem exists_sub_of_isHeld (held : IsHeld (first.toRat - second.toRat)) :
    ∃ rest, first.sub second = .ok rest ∧ rest.toRat = first.toRat - second.toRat := by
  rcases sub_cases first second with ⟨rest, taken, found⟩ | ⟨-, missing⟩
  · obtain ⟨other, same⟩ := held
    exact ⟨rest, taken, (Decimal.sub?_fits found).eq_of_exists other.value same⟩
  · exact absurd (Decimal.sub?_eq_none_iff.mp missing) held.abs_lt.not_ge

end Amount

end Paydesk
