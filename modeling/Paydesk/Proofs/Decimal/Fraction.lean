/-
**Decimals as fractions.**

A decimal is a fraction, and rounding to a number of places takes the nearest fraction with these
places. What a chain of roundings does to a number is said of these fractions.

* `nearestWhole`, `nearest`: a fraction rounded to a number of places, a half away from zero;
* `abs_nearest_sub_le`: rounding moves a fraction by no more than half a unit in the last place;
* `nearest_mono`: a larger fraction is not rounded to less;
* `Decimal.toRat`, `Decimal.sameValue_iff_toRat`: the value of a decimal;
* `Decimal.isLE_compare_iff_toRat`: decimals compare as their values;
* `Amount.toRat_round`: **an amount is its decimal rounded to cents**.
-/

import Mathlib.Data.Rat.Floor
import Paydesk.Proofs.Decimal.Average

namespace Paydesk

/-! ### Nearest numbers -/

/-- The whole number nearest to a fraction, a half away from zero. -/
def nearestWhole (x : ℚ) : ℤ := if x < 0 then -⌊-x + 1 / 2⌋ else ⌊x + 1 / 2⌋

/-- The number with so many places that is nearest to a fraction, a half away from zero. -/
def nearest (places : Nat) (x : ℚ) : ℚ := nearestWhole (x * 10 ^ places) / 10 ^ places

variable {x : ℚ} {places : Nat}

theorem nearestWhole_of_nonneg (positive : 0 ≤ x) : nearestWhole x = ⌊x + 1 / 2⌋ :=
  if_neg (not_lt.mpr positive)

theorem nearestWhole_neg (x : ℚ) : nearestWhole (-x) = -nearestWhole x := by
  have nothing : nearestWhole 0 = 0 := by
    rw [nearestWhole_of_nonneg le_rfl, Int.floor_eq_iff]
    norm_num
  unfold nearestWhole
  rcases lt_trichotomy x 0 with negative | rfl | positive
  · rw [if_pos negative, if_neg (by linarith), neg_neg]
  · exact (congrArg nearestWhole neg_zero).trans (nothing.trans (congrArg Neg.neg nothing).symm)
  · rw [if_neg positive.not_gt, if_pos (by linarith), neg_neg]

theorem abs_nearestWhole_sub_le (x : ℚ) : |nearestWhole x - x| ≤ 1 / 2 := by
  have least := Int.floor_le (x + 1 / 2)
  have most := Int.lt_floor_add_one (x + 1 / 2)
  have least_neg := Int.floor_le (-x + 1 / 2)
  have most_neg := Int.lt_floor_add_one (-x + 1 / 2)
  unfold nearestWhole
  split
  · push_cast
    exact abs_le.mpr ⟨by linarith, by linarith⟩
  · exact abs_le.mpr ⟨by linarith, by linarith⟩

/-- Both are off by a half at most, so a larger fraction is not rounded to less. -/
theorem nearestWhole_mono {x y : ℚ} (le : x ≤ y) : nearestWhole x ≤ nearestWhole y := by
  by_contra more
  have apart : nearestWhole y + 1 ≤ nearestWhole x := Int.add_one_le_iff.mpr (not_le.mp more)
  have apart_rat : (nearestWhole y : ℚ) + 1 ≤ nearestWhole x := by exact_mod_cast apart
  have close := abs_le.mp (abs_nearestWhole_sub_le x)
  have close_other := abs_le.mp (abs_nearestWhole_sub_le y)
  obtain rfl : x = y := by linarith
  exact more le_rfl

theorem nearestWhole_intCast (whole : ℤ) : nearestWhole whole = whole := by
  have close := abs_le.mp (abs_nearestWhole_sub_le whole)
  have upper : ((nearestWhole whole : ℤ) : ℚ) < (whole + 1 : ℤ) := by push_cast; linarith
  have lower : ((whole - 1 : ℤ) : ℚ) < nearestWhole whole := by push_cast; linarith
  have upper_int := Int.cast_lt.mp upper
  have lower_int := Int.cast_lt.mp lower
  omega

/-- The nearest whole number of a quotient. -/
theorem nearestWhole_div (num : ℤ) {den : Nat} (positive : 0 < den) :
    nearestWhole (num / den) = roundHalfAway num den := by
  have den_pos : (0 : ℚ) < den := by exact_mod_cast positive
  have magnitude (count : Nat) : ⌊(count : ℚ) / den + 1 / 2⌋ = quotientHalfUp count den := by
    have joined : (count : ℚ) / den + 1 / 2 = ((2 * count + den : ℕ) : ℚ) / (2 * den : ℕ) := by
      push_cast
      field_simp
    rw [joined, Rat.floor_natCast_div_natCast]
    rfl
  unfold nearestWhole roundHalfAway
  rcases lt_or_ge num 0 with negative | nonneg
  · have size : -((num : ℚ) / den) = (num.natAbs : ℚ) / den := by
      rw [Nat.cast_natAbs, abs_of_neg negative, Int.cast_neg, neg_div]
    have below : (num : ℚ) / den < 0 := div_neg_of_neg_of_pos (by exact_mod_cast negative) den_pos
    rw [if_pos below, if_pos negative, size, magnitude]
  · have size : (num : ℚ) / den = (num.natAbs : ℚ) / den := by
      rw [Nat.cast_natAbs, abs_of_nonneg nonneg]
    have above : (0 : ℚ) ≤ num / den := div_nonneg (by exact_mod_cast nonneg) den_pos.le
    rw [if_neg above.not_gt, if_neg nonneg.not_gt, size, magnitude]

theorem nearest_neg (places : Nat) (x : ℚ) : nearest places (-x) = -nearest places x := by
  unfold nearest
  rw [neg_mul, nearestWhole_neg, Int.cast_neg, neg_div]

/-- **Rounding moves a fraction by no more than half a unit in the last place.** -/
theorem abs_nearest_sub_le (places : Nat) (x : ℚ) :
    |nearest places x - x| ≤ 1 / (2 * 10 ^ places) := by
  have unit : (0 : ℚ) < 10 ^ places := by positivity
  have scaled : nearest places x - x
      = (nearestWhole (x * 10 ^ places) - x * 10 ^ places) / 10 ^ places := by
    unfold nearest
    field_simp
  rw [scaled, abs_div, abs_of_pos unit, ← div_div]
  exact div_le_div_of_nonneg_right (abs_nearestWhole_sub_le _) unit.le

theorem nearest_mono (places : Nat) : Monotone (nearest places) := by
  intro x y le
  have unit : (0 : ℚ) < 10 ^ places := by positivity
  have wholes := nearestWhole_mono (mul_le_mul_of_nonneg_right le unit.le)
  exact div_le_div_of_nonneg_right (by exact_mod_cast wholes) unit.le

/-- A fraction that has so few places stays as it is. -/
theorem nearest_eq_self {whole : ℤ} (few : x * 10 ^ places = whole) : nearest places x = x := by
  unfold nearest
  rw [few, nearestWhole_intCast, ← few]
  exact mul_div_cancel_right₀ _ (pow_ne_zero _ (by norm_num))

theorem nearest_nonneg (positive : 0 ≤ x) : 0 ≤ nearest places x := by
  have scaled : 0 ≤ x * 10 ^ places := by positivity
  have least : 0 ≤ nearestWhole (x * 10 ^ places) := by
    rw [nearestWhole_of_nonneg scaled]
    exact Int.floor_nonneg.mpr (by linarith)
  have least_rat : (0 : ℚ) ≤ nearestWhole (x * 10 ^ places) := by exact_mod_cast least
  exact div_nonneg least_rat (by positivity)

theorem abs_nearest (places : Nat) (x : ℚ) : |nearest places x| = nearest places |x| := by
  rcases le_total 0 x with positive | negative
  · rw [abs_of_nonneg positive, abs_of_nonneg (nearest_nonneg positive)]
  · have opposite : 0 ≤ nearest places (-x) := nearest_nonneg (neg_nonneg.mpr negative)
    rw [abs_of_nonpos negative, ← abs_neg, ← nearest_neg, abs_of_nonneg opposite]

/-! ### Rounding twice -/

/-- A fraction falls short of the middle between two numbers with so many places by no more than a
slack. -/
def FallsShort (places : Nat) (slack x : ℚ) : Prop :=
  ∃ count : ℕ, |x| * 10 ^ places < count + 1 / 2 ∧ count + 1 / 2 ≤ (|x| + slack) * 10 ^ places

/-- The numerators of a fraction and of another one a little further off, both rounded. -/
theorem floor_eq_or_next {y slack : ℚ} (close : |y - x| ≤ slack) (fine : slack * 10 ^ places < 1)
    (keeps : ∀ count : ℕ, count + 1 / 2 ≤ |x| * 10 ^ places → count + 1 / 2 ≤ |y| * 10 ^ places) :
    ∃ whole : ℕ, ⌊|x| * 10 ^ places + 1 / 2⌋ = whole
      ∧ (⌊|y| * 10 ^ places + 1 / 2⌋ = whole ∨ ⌊|y| * 10 ^ places + 1 / 2⌋ = whole + 1) := by
  have unit : (0 : ℚ) < 10 ^ places := by positivity
  have further : |y| * 10 ^ places ≤ |x| * 10 ^ places + slack * 10 ^ places := by
    have apart := (abs_sub_abs_le_abs_sub y x).trans close
    rw [← add_mul]
    exact mul_le_mul_of_nonneg_right (by linarith) unit.le
  have nonneg : 0 ≤ ⌊|x| * 10 ^ places + 1 / 2⌋ := Int.floor_nonneg.mpr (by positivity)
  obtain ⟨whole, floor_eq⟩ := Int.eq_ofNat_of_zero_le nonneg
  have before := Int.floor_le (|x| * 10 ^ places + 1 / 2)
  have before_lt := Int.lt_floor_add_one (|x| * 10 ^ places + 1 / 2)
  rw [floor_eq, Int.cast_natCast] at before before_lt
  have least : (whole : ℤ) ≤ ⌊|y| * 10 ^ places + 1 / 2⌋ := by
    refine Int.le_floor.mpr ?_
    cases whole with
    | zero =>
      rw [Nat.cast_zero, Int.cast_zero]
      positivity
    | succ count =>
      push_cast at before ⊢
      have kept := keeps count (by linarith)
      linarith
  have most : ⌊|y| * 10 ^ places + 1 / 2⌋ < whole + 2 := by
    refine Int.floor_lt.mpr ?_
    push_cast
    linarith
  exact ⟨whole, floor_eq, by omega⟩

/-- **A fraction that was rounded before**, by less than a unit and not back across a middle, is
rounded as it would have been at once, or it is a unit further from zero because the fraction fell
short of a middle by no more than it was off: that middle lies between both fractions. -/
theorem nearest_eq_or_fallsShort {y slack : ℚ} (positive : 0 ≤ x → 0 ≤ y) (negative : x ≤ 0 → y ≤ 0)
    (close : |y - x| ≤ slack) (fine : slack * 10 ^ places < 1)
    (keeps : ∀ count : ℕ, count + 1 / 2 ≤ |x| * 10 ^ places → count + 1 / 2 ≤ |y| * 10 ^ places) :
    nearest places y = nearest places x
      ∨ FallsShort places slack x ∧ |nearest places y| = |nearest places x| + 1 / 10 ^ places := by
  have rounded (z : ℚ) : nearest places |z| = ⌊|z| * 10 ^ places + 1 / 2⌋ / 10 ^ places := by
    rw [nearest, nearestWhole_of_nonneg (by positivity)]
  obtain ⟨whole, floor_eq, same | next⟩ := floor_eq_or_next close fine keeps
  · have magnitudes : nearest places |y| = nearest places |x| := by
      rw [rounded, rounded, same, floor_eq, Int.cast_natCast]
    rcases le_total 0 x with above | below
    · rw [abs_of_nonneg above, abs_of_nonneg (positive above)] at magnitudes
      exact Or.inl magnitudes
    · rw [abs_of_nonpos below, abs_of_nonpos (negative below), nearest_neg, nearest_neg,
        neg_inj] at magnitudes
      exact Or.inl magnitudes
  · have short := Int.lt_floor_add_one (|x| * 10 ^ places + 1 / 2)
    have reached := Int.floor_le (|y| * 10 ^ places + 1 / 2)
    have apart : |y| ≤ |x| + slack := by
      have apart := (abs_sub_abs_le_abs_sub y x).trans close
      linarith
    have scaled : |y| * 10 ^ places ≤ (|x| + slack) * 10 ^ places :=
      mul_le_mul_of_nonneg_right apart (by positivity)
    rw [floor_eq] at short
    rw [next] at reached
    push_cast at short reached
    refine Or.inr ⟨⟨whole, by linarith, by linarith⟩, ?_⟩
    rw [abs_nearest, abs_nearest, rounded, rounded, next, floor_eq, ← add_div]
    push_cast
    rfl

/-! ### Values of decimals -/

namespace Decimal

variable {first second : Decimal}

/-- The value of a decimal. -/
def toRat (decimal : Decimal) : ℚ := decimal.signedCoefficient / 10 ^ decimal.scale

theorem abs_toRat (decimal : Decimal) :
    |decimal.toRat| = decimal.coefficient / 10 ^ decimal.scale := by
  have unit : (0 : ℚ) < 10 ^ decimal.scale := by positivity
  have magnitude : |(decimal.signedCoefficient : ℚ)| = decimal.coefficient := by
    rw [← decimal.natAbs_signedCoefficient, Nat.cast_natAbs, Int.cast_abs]
  unfold toRat
  rw [abs_div, abs_of_pos unit, magnitude]

theorem coefficient_le (decimal : Decimal) : (decimal.coefficient : ℚ) ≤ limit - 1 := by
  rw [le_sub_iff_add_le]
  exact_mod_cast Nat.succ_le_of_lt decimal.coefficient_lt

/-- The values of decimals lie below the limit. -/
theorem abs_toRat_le (decimal : Decimal) : |decimal.toRat| ≤ limit - 1 := by
  rw [abs_toRat]
  exact (div_le_self (Nat.cast_nonneg _) (one_le_pow₀ (by norm_num))).trans decimal.coefficient_le

theorem sameValue_iff_toRat : first.sameValue second ↔ first.toRat = second.toRat := by
  have unit (scale : Nat) : (10 : ℚ) ^ scale ≠ 0 := pow_ne_zero _ (by norm_num)
  unfold toRat
  rw [sameValue_iff, div_eq_div_iff (unit _) (unit _)]
  exact_mod_cast Iff.rfl

theorem toRat_neg (decimal : Decimal) : decimal.neg.toRat = -decimal.toRat := by
  unfold toRat
  rw [signedCoefficient_neg, Int.cast_neg, neg_div]
  rfl

/-- **Decimals compare as their values.** -/
theorem isLE_compare_iff_toRat : (compare first second).isLE ↔ first.toRat ≤ second.toRat := by
  have unit (scale : Nat) : (0 : ℚ) < 10 ^ scale := by positivity
  change (first.order second).isLE ↔ _
  unfold order toRat
  rw [Std.isLE_compare, Nat.pow_eq, Nat.pow_eq, div_le_div_iff₀ (unit _) (unit _)]
  exact_mod_cast Iff.rfl

theorem toRat_eq_zero_iff {decimal : Decimal} : decimal.toRat = 0 ↔ decimal.isZero := by
  have unit : (10 : ℚ) ^ decimal.scale ≠ 0 := pow_ne_zero _ (by norm_num)
  rw [← abs_eq_zero, abs_toRat, div_eq_zero_iff, or_iff_left unit, Nat.cast_eq_zero]
  exact beq_iff_eq.symm

/-- The value of a sign and a magnitude. -/
theorem toRat_eq_signed (decimal : Decimal) : decimal.toRat
    = (if decimal.negative then -1 else 1) * (decimal.coefficient / 10 ^ decimal.scale) := by
  unfold toRat signedCoefficient
  split
  · push_cast
    ring
  · push_cast
    ring

/-- The value of a sign and a magnitude where zero loses its sign. -/
theorem toRat_of_sign {decimal : Decimal} {negative : Bool}
    (sign : decimal.negative = (negative && decimal.coefficient != 0)) :
    decimal.toRat = (if negative then -1 else 1) * (decimal.coefficient / 10 ^ decimal.scale) := by
  rw [toRat_eq_signed, sign]
  by_cases nothing : decimal.coefficient = 0
  · rw [nothing, Nat.cast_zero, zero_div, mul_zero, mul_zero]
  · rw [bne_iff_ne.mpr nothing, Bool.and_true]

/-- The value of a decimal from its parts. -/
theorem toRat_ofParts (negative : Bool) {coefficient scale : Nat} (small : coefficient < limit)
    (short : scale ≤ maxScale) : (ofParts negative coefficient scale small short).toRat
      = (if negative then -1 else 1) * (coefficient / 10 ^ scale) :=
  toRat_of_sign rfl

/-- The magnitude of a signed number. -/
theorem abs_signed {magnitude : ℚ} (negative : Bool) (nonneg : 0 ≤ magnitude) :
    |(if negative then -1 else 1) * magnitude| = magnitude := by
  rw [abs_mul, abs_of_nonneg nonneg]
  split <;> norm_num

/-- A decimal other than zero has the sign of its value. -/
theorem toRat_neg_iff {decimal : Decimal} (nonzero : decimal.isZero = false) :
    decimal.toRat < 0 ↔ decimal.negative := by
  have digits : (0 : ℚ) < decimal.coefficient := by
    exact_mod_cast Nat.pos_of_ne_zero (beq_eq_false_iff_ne.mp nonzero)
  have size : (0 : ℚ) < decimal.coefficient / 10 ^ decimal.scale := by positivity
  rw [toRat_eq_signed]
  cases decimal.negative with
  | true => simp [size]
  | false => simp [size.le]

theorem toRat_pos_iff {decimal : Decimal} : 0 < decimal.toRat ↔ decimal.isPositive := by
  have unit : (0 : ℚ) < 10 ^ decimal.scale := by positivity
  have size : (0 : ℚ) ≤ decimal.coefficient / 10 ^ decimal.scale := by positivity
  rw [toRat_eq_signed]
  unfold isPositive
  cases decimal.negative with
  | true =>
    simp only [if_true, Bool.not_true, Bool.false_and, Bool.false_eq_true, iff_false]
    linarith
  | false =>
    simp only [Bool.false_eq_true, if_false, one_mul, Bool.not_false, Bool.true_and, bne_iff_ne]
    rw [div_pos_iff_of_pos_right unit, Nat.cast_pos]
    exact Nat.pos_iff_ne_zero

end Decimal

namespace Amount

/-- The value of an amount. -/
def toRat (amount : Amount) : ℚ := amount.value.toRat

theorem toRat_eq_minor (amount : Amount) : amount.toRat = amount.minor / 100 := by
  have unit : (10 : ℚ) ^ amount.value.scale ≠ 0 := pow_ne_zero _ (by norm_num)
  have hundred : (100 : ℚ) = 10 ^ (places - amount.value.scale) * 10 ^ amount.value.scale := by
    rw [← pow_add, Nat.sub_add_cancel amount.scale_le]
    norm_num [places]
  unfold toRat Decimal.toRat minor Decimal.minor
  rw [hundred]
  push_cast
  field_simp

/-- **An amount is its decimal rounded to cents.** -/
theorem toRat_round (value : Decimal) : (round value).toRat = nearest 2 value.toRat := by
  have unit : 0 < 10 ^ value.scale := Nat.pow_pos (by decide)
  have cents : value.toRat * 10 ^ 2
      = ((value.signedCoefficient * 100 : ℤ) : ℚ) / (10 ^ value.scale : ℕ) := by
    unfold Decimal.toRat
    push_cast
    ring
  rw [toRat_eq_minor, round_minor, nearest, cents, nearestWhole_div _ unit]
  norm_num

end Amount

end Paydesk
