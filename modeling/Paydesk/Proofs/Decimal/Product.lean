/-
**The product of two decimals.**

A product has all the places that its factors have together, or the most of them that its
coefficient has room for, rounded once with a half to the even neighbour. So it is exact wherever
some decimal is, it stays on its side of every number that has as many places, and each place that
there is room for halves what it can be off by tenfold.

* `fit_spec`, `exists_fit`: **the most places that a quotient has room for**, by induction on them;
* `Decimal.Fits`: a decimal with as many places of a fraction as there is room for;
* `Fits.error_le`, `Fits.eq_of_exists`: how near it is, and where it is exact;
* `mul?_fits`, `exists_mul?`: **products of decimals**.
-/

import Paydesk.Proofs.Decimal.Fraction

namespace Paydesk.Decimal

/-! ### The most places with room -/

section Fit

variable {negative : Bool} {num den scale : Nat} {short : scale ≤ maxScale} {value : Decimal}

/-- A fitted quotient is rounded at its places, and no place more has room. -/
theorem fit_spec (found : fit negative num den scale short = some value) :
    value.scale ≤ scale
      ∧ value.coefficient = quotientHalfEven (num * 10 ^ value.scale) den
      ∧ value.negative = (negative && value.coefficient != 0)
      ∧ ∀ places ≤ scale, quotientHalfEven (num * 10 ^ places) den < limit →
          places ≤ value.scale := by
  induction scale with
  | zero =>
    unfold fit ofParts? at found
    split at found
    · cases found
      refine ⟨le_rfl, ?_, rfl, fun places few _ => few⟩
      rw [ofParts, pow_zero, Nat.mul_one]
    · cases found
  | succ scale hypothesis =>
    unfold fit at found
    dsimp only at found
    split at found
    · cases found
      exact ⟨le_rfl, rfl, rfl, fun places few _ => few⟩
    · rename_i none
      obtain ⟨few, digits, sign, most⟩ := hypothesis found
      refine ⟨Nat.le_succ_of_le few, digits, sign, fun places bound small => ?_⟩
      rcases Nat.le_succ_iff.mp bound with fewer | rfl
      · exact most places fewer small
      · exact absurd small none

/-- A quotient with room for some places is fitted. -/
theorem exists_fit {places : Nat} (few : places ≤ scale)
    (small : quotientHalfEven (num * 10 ^ places) den < limit) :
    ∃ value, fit negative num den scale short = some value := by
  induction scale with
  | zero =>
    obtain rfl : places = 0 := Nat.le_zero.mp few
    rw [pow_zero, Nat.mul_one] at small
    exact ⟨_, dif_pos ⟨small, Nat.zero_le _⟩⟩
  | succ scale hypothesis =>
    unfold fit
    dsimp only
    split
    · exact ⟨_, rfl⟩
    · rename_i none
      rcases Nat.le_succ_iff.mp few with fewer | rfl
      · exact hypothesis fewer
      · exact absurd small none

end Fit

/-! ### Decimals that fit a fraction -/

/-- A decimal with as many places of a fraction as there is room for, its last place rounded. -/
structure Fits (exact : ℚ) (value : Decimal) : Prop where
  positive : 0 ≤ exact → 0 ≤ value.toRat
  negative : exact ≤ 0 → value.toRat ≤ 0
  near : |(value.coefficient : ℚ) - |exact| * 10 ^ value.scale| ≤ 1 / 2
  /-- Rounding does not cross a number with the same places. -/
  keeps : ∀ whole : ℕ, whole ≤ |exact| * 10 ^ value.scale → whole ≤ value.coefficient
  room : ∀ places ≤ maxScale, |exact| * 10 ^ places ≤ limit - 1 →
    places ≤ value.scale ∨ ∃ whole : ℕ, |exact| * 10 ^ value.scale = whole

namespace Fits

variable {exact : ℚ} {value : Decimal} {places : Nat}

/-- Magnitudes of one sign are as far apart as their numbers. -/
theorem abs_sub_eq (fits : Fits exact value) : |value.toRat - exact| = |(|value.toRat| - |exact|)| := by
  rcases le_total 0 exact with nonneg | nonpos
  · rw [abs_of_nonneg nonneg, abs_of_nonneg (fits.positive nonneg)]
  · rw [abs_of_nonpos nonpos, abs_of_nonpos (fits.negative nonpos), ← abs_neg]
    congr 1
    ring

theorem error_le_scale (fits : Fits exact value) :
    |value.toRat - exact| ≤ 1 / (2 * 10 ^ value.scale) := by
  have unit : (0 : ℚ) < 10 ^ value.scale := by positivity
  have scaled : |value.toRat| - |exact|
      = (value.coefficient - |exact| * 10 ^ value.scale) / 10 ^ value.scale := by
    rw [abs_toRat]
    field_simp
  rw [fits.abs_sub_eq, scaled, abs_div, abs_of_pos unit, ← div_div]
  exact div_le_div_of_nonneg_right fits.near unit.le

/-- A fraction with no more places than the decimal is met. -/
theorem eq_of_whole (fits : Fits exact value) {whole : ℕ}
    (same : |exact| * 10 ^ value.scale = whole) : value.toRat = exact := by
  have unit : (10 : ℚ) ^ value.scale ≠ 0 := pow_ne_zero _ (by norm_num)
  have least : whole ≤ value.coefficient := fits.keeps whole same.ge
  have close := (abs_le.mp fits.near).2
  have most : value.coefficient < whole + 1 := by
    have bound : (value.coefficient : ℚ) < whole + 1 := by
      rw [← same]
      linarith
    exact_mod_cast bound
  have digits : value.coefficient = whole := by omega
  rw [← sub_eq_zero, ← abs_eq_zero, fits.abs_sub_eq, abs_toRat, digits, ← same,
    mul_div_cancel_right₀ _ unit, sub_self, abs_zero]

/-- **With room for so many places, a decimal is off by at most half a unit in the last of them.**
-/
theorem error_le (fits : Fits exact value) (short : places ≤ maxScale)
    (room : |exact| * 10 ^ places ≤ limit - 1) :
    |value.toRat - exact| ≤ 1 / (2 * 10 ^ places) := by
  rcases fits.room places short room with few | ⟨whole, same⟩
  · refine fits.error_le_scale.trans (one_div_le_one_div_of_le (by positivity) ?_)
    have powers : (10 : ℚ) ^ places ≤ 10 ^ value.scale := pow_le_pow_right₀ (by norm_num) few
    linarith
  · rw [fits.eq_of_whole same, sub_self, abs_zero]
    positivity

/-- What fits lies below the limit. -/
theorem lt_limit (fits : Fits exact value) : |exact| < limit := by
  have most := value.coefficient_le
  have close := (abs_le.mp fits.near).1
  calc |exact| ≤ |exact| * 10 ^ value.scale :=
        le_mul_of_one_le_right (abs_nonneg _) (one_le_pow₀ (by norm_num))
    _ < limit := by linarith

/-- **Where some decimal is the fraction, so is this one.** -/
theorem eq_of_exists (fits : Fits exact value) (other : Decimal) (same : other.toRat = exact) :
    value.toRat = exact := by
  have unit : (0 : ℚ) < 10 ^ other.scale := by positivity
  have digits : |exact| * 10 ^ other.scale = other.coefficient := by
    rw [← same, abs_toRat, div_mul_cancel₀ _ unit.ne']
  have room : |exact| * 10 ^ other.scale ≤ limit - 1 := digits.trans_le other.coefficient_le
  rcases fits.room other.scale other.scale_le room with few | ⟨whole, met⟩
  · have split : value.scale = other.scale + (value.scale - other.scale) :=
      (Nat.add_sub_cancel' few).symm
    have whole : |exact| * 10 ^ value.scale
        = ((other.coefficient * 10 ^ (value.scale - other.scale) : ℕ) : ℚ) := by
      rw [split, pow_add, ← mul_assoc, digits, ← split]
      push_cast
      rfl
    exact fits.eq_of_whole whole
  · exact fits.eq_of_whole met

end Fits

/-! ### Fitted quotients -/

section Quotient

variable {exact : ℚ} {negative : Bool} {num digits scale : Nat} {short : scale ≤ maxScale}
  {value : Decimal}

/-- A half of a unit too large for a coefficient is a whole unit too large for the fraction. -/
theorem quotientHalfEven_lt_limit {den : Nat} (positive : 0 < den)
    (small : (num : ℚ) / den ≤ limit - 1) : quotientHalfEven num den < limit := by
  have close := (quotientHalfEven_near num positive).2.1
  have bound : (quotientHalfEven num den : ℚ) < limit := by linarith
  exact_mod_cast bound

/-- **What is fitted to a quotient by a power of ten fits the fraction**, if it may have every place
of the fraction that a decimal can have. -/
theorem fit_fits (places_eq : scale = min digits maxScale)
    (magnitude : |exact| = (num : ℚ) / (10 ^ digits : ℕ)) (sign : negative = true ↔ exact < 0)
    (found : fit negative num (10 ^ digits) scale short = some value) : Fits exact value := by
  have positive : 0 < 10 ^ digits := Nat.pow_pos (by decide)
  have den_pos : (0 : ℚ) < (10 ^ digits : ℕ) := by exact_mod_cast positive
  obtain ⟨few, coefficient_eq, sign_eq, most⟩ := fit_spec found
  have size : (0 : ℚ) ≤ value.coefficient / 10 ^ value.scale := by positivity
  have scaled (places : Nat) : |exact| * 10 ^ places
      = ((num * 10 ^ places : ℕ) : ℚ) / (10 ^ digits : ℕ) := by
    rw [magnitude, div_mul_eq_mul_div, ← Nat.cast_ofNat, ← Nat.cast_pow, ← Nat.cast_mul]
  refine ⟨fun nonneg => ?_, fun nonpos => ?_, ?_, fun whole small => ?_, fun places short room => ?_⟩
  · have unsigned : negative = false := Bool.eq_false_iff.mpr (sign.not.mpr nonneg.not_gt)
    rw [toRat_of_sign sign_eq, unsigned, if_neg Bool.false_ne_true, one_mul]
    exact size
  · rcases nonpos.lt_or_eq with below | rfl
    · rw [toRat_of_sign sign_eq, sign.mpr below, if_pos rfl, neg_one_mul]
      exact neg_nonpos.mpr size
    · have nothing : num = 0 := by
        rw [abs_zero, eq_comm, div_eq_zero_iff, or_iff_left den_pos.ne'] at magnitude
        exact_mod_cast magnitude
      have kept : quotientHalfEven 0 (10 ^ digits) = 0 := by
        simpa using quotientHalfEven_exact 0 positive
      have no_digit : value.coefficient = 0 := by
        rw [coefficient_eq, nothing, Nat.zero_mul, kept]
      rw [toRat_of_sign sign_eq, no_digit, Nat.cast_zero, zero_div, mul_zero]
  · obtain ⟨upper, lower, -⟩ := quotientHalfEven_near (num * 10 ^ value.scale) positive
    rw [scaled, coefficient_eq]
    exact abs_le.mpr ⟨by linarith, by linarith⟩
  · rw [scaled, le_div_iff₀ den_pos] at small
    rw [coefficient_eq]
    refine le_trans ?_ (div_le_quotientHalfEven _ _)
    exact (Nat.le_div_iff_mul_le positive).mpr (by exact_mod_cast small)
  · rcases Nat.le_total places digits with fewer | more
    · refine Or.inl (most places (places_eq ▸ Nat.le_min.mpr ⟨fewer, short⟩) ?_)
      exact quotientHalfEven_lt_limit positive (by rwa [← scaled])
    · have whole : value.scale = digits := by
        refine Nat.le_antisymm ((places_eq ▸ few).trans (Nat.min_le_left _ _)) ?_
        refine most _ (places_eq ▸ Nat.le_min.mpr ⟨le_rfl, more.trans short⟩) ?_
        refine quotientHalfEven_lt_limit positive ?_
        rw [← scaled]
        refine le_trans ?_ room
        exact mul_le_mul_of_nonneg_left (pow_le_pow_right₀ (by norm_num) more) (abs_nonneg _)
      refine Or.inr ⟨num, ?_⟩
      rw [scaled, whole, Nat.cast_mul, mul_div_cancel_right₀ _ den_pos.ne']

end Quotient

/-! ### Products -/

variable {first second value : Decimal} {places : Nat}

theorem abs_mul_toRat (first second : Decimal) : |first.toRat * second.toRat|
    = ((first.coefficient * second.coefficient : ℕ) : ℚ)
      / (10 ^ (first.scale + second.scale) : ℕ) := by
  rw [abs_mul, abs_toRat, abs_toRat, div_mul_div_comm, ← pow_add]
  push_cast
  rfl

/-- A decimal fits its own value. -/
theorem fits_self (value : Decimal) : Fits value.toRat value where
  positive := id
  negative := id
  near := by
    rw [abs_toRat, div_mul_cancel₀ _ (by positivity), sub_self, abs_zero]
    norm_num
  keeps whole small := by
    rw [abs_toRat, div_mul_cancel₀ _ (by positivity)] at small
    exact_mod_cast small
  room _ _ _ := Or.inr ⟨value.coefficient, by rw [abs_toRat, div_mul_cancel₀ _ (by positivity)]⟩

/-- The sign of a product is that of its value. -/
theorem sign_of_mul (first_nonzero : first.isZero = false) (second_nonzero : second.isZero = false) :
    (first.negative != second.negative) = true ↔ first.toRat * second.toRat < 0 := by
  have positive {decimal : Decimal} (nonzero : decimal.isZero = false) :
      0 < decimal.toRat ↔ decimal.negative = false := by
    rw [toRat_pos_iff, isPositive, bne_iff_ne.mpr (beq_eq_false_iff_ne.mp nonzero), Bool.and_true,
      Bool.not_eq_true']
  rw [mul_neg_iff, positive first_nonzero, positive second_nonzero, toRat_neg_iff first_nonzero,
    toRat_neg_iff second_nonzero]
  cases first.negative <;> cases second.negative <;> decide

/-- **A product fits the fraction that it stands for.** -/
theorem mul?_fits (found : first.mul? second = some value) :
    Fits (first.toRat * second.toRat) value := by
  unfold mul? at found
  split at found
  · rename_i nothing
    cases found
    have exact_zero : first.toRat * second.toRat = zero.toRat := by
      rw [toRat_eq_zero_iff.mpr (rfl : zero.isZero)]
      rcases Bool.or_eq_true _ _ ▸ nothing with none | none
      · rw [toRat_eq_zero_iff.mpr none, zero_mul]
      · rw [toRat_eq_zero_iff.mpr none, mul_zero]
    rw [exact_zero]
    exact fits_self zero
  · rename_i some_digits
    rw [Bool.or_eq_true, not_or, Bool.not_eq_true, Bool.not_eq_true] at some_digits
    exact fit_fits rfl (abs_mul_toRat first second) (sign_of_mul some_digits.1 some_digits.2) found

/-- **There is a product where it has room.** -/
theorem exists_mul? (room : |first.toRat * second.toRat| ≤ limit - 1) :
    ∃ value, first.mul? second = some value := by
  unfold mul?
  split
  · exact ⟨zero, rfl⟩
  · refine exists_fit (Nat.zero_le _) (quotientHalfEven_lt_limit (Nat.pow_pos (by decide)) ?_)
    rw [pow_zero, Nat.mul_one]
    exact (abs_mul_toRat first second).symm.trans_le room

end Paydesk.Decimal
