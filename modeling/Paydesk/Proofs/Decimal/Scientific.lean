/-
**Decimals with an exponent.**

A numeral with an exponent is its digits times a power of ten. Where the power is not negative the
product is exact or there is none; where it is negative the number is rounded to 28 places. So what
is refused is out of bounds: it is as large as no decimal is, or it is not zero and smaller than the
last place of a decimal.

* `OutOfBounds`, `toRat_ne_of_outOfBounds`: **numbers that no decimal has as its value**;
* `toRat_cut`: a decimal cut to a number of places;
* `shrink_spec`, `grow_spec`: division by and multiplication with a power of ten;
* `ReadsAs`: what a reader makes of a number;
* `readsAs_readScientific`: **a numeral with one digit before its point and an exponent**.
-/

import Paydesk.Proofs.Decimal.Product
import Paydesk.Proofs.Decimal.Text

namespace Paydesk.Decimal

variable {decimal value : Decimal} {x : ℚ} {places power : Nat}

/-! ### Bounds -/

/-- A number that is too large for a decimal, or not zero and too small for its last place. -/
def OutOfBounds (x : ℚ) : Prop := (limit : ℚ) ≤ |x| ∨ 0 < |x| ∧ |x| < 1 / 10 ^ maxScale

/-- **No decimal has a number out of bounds as its value.** -/
theorem toRat_ne_of_outOfBounds (out : OutOfBounds x) (decimal : Decimal) : decimal.toRat ≠ x := by
  rintro rfl
  rcases out with large | ⟨some_value, tiny⟩
  · have small := decimal.abs_toRat_le
    linarith
  · have some_digit : (1 : ℚ) ≤ decimal.coefficient := by
      have nonzero : decimal.isZero = false := by
        rw [← Bool.not_eq_true, ← toRat_eq_zero_iff]
        exact abs_pos.mp some_value
      exact_mod_cast Nat.pos_of_ne_zero (beq_eq_false_iff_ne.mp nonzero)
    rw [abs_toRat] at tiny
    refine absurd tiny (not_lt.mpr ?_)
    gcongr
    · norm_num
    · exact decimal.scale_le

/-! ### Places -/

theorem toRat_mul_pow (few : decimal.scale ≤ places) : decimal.toRat * 10 ^ places
    = ((decimal.signedCoefficient * 10 ^ (places - decimal.scale) : ℤ) : ℚ) := by
  have split : (10 : ℚ) ^ places = 10 ^ decimal.scale * 10 ^ (places - decimal.scale) := by
    rw [← pow_add, Nat.add_sub_cancel' few]
  unfold toRat
  rw [split]
  push_cast
  field_simp

/-- A decimal is its own nearest number with the most places. -/
theorem nearest_toRat (decimal : Decimal) : nearest maxScale decimal.toRat = decimal.toRat :=
  nearest_eq_self (toRat_mul_pow decimal.scale_le)

theorem toRat_cut (decimal : Decimal) (places : Nat) :
    (decimal.cut places).toRat = nearest places decimal.toRat := by
  unfold cut
  split
  · rename_i more
    have unit : 0 < 10 ^ (decimal.scale - places) := Nat.pow_pos (by decide)
    have scaled : decimal.toRat * 10 ^ places
        = (signed decimal.negative decimal.coefficient : ℚ) / (10 ^ (decimal.scale - places) : ℕ) := by
      have split : (10 : ℚ) ^ decimal.scale = 10 ^ (decimal.scale - places) * 10 ^ places := by
        rw [← pow_add, Nat.sub_add_cancel more.le]
      change (signed decimal.negative decimal.coefficient : ℚ) / 10 ^ decimal.scale * 10 ^ places = _
      rw [split]
      push_cast
      field_simp
    rw [nearest, scaled, nearestWhole_div _ unit, roundHalfAway_signed _ _ unit]
    rfl
  · rename_i few
    exact (nearest_eq_self (toRat_mul_pow (Nat.not_lt.mp few))).symm

/-- Places after the point that a division adds are rounded where they were before it. -/
theorem nearest_div_pow (places power : Nat) (x : ℚ) :
    nearest (places + power) (x / 10 ^ power) = nearest places x / 10 ^ power := by
  have same : x / 10 ^ power * 10 ^ (places + power) = x * 10 ^ places := by
    rw [pow_add]
    field_simp
  unfold nearest
  rw [same, pow_add, div_div]

/-! ### Powers of ten -/

/-- **A decimal divided by a power of ten is rounded to 28 places.** -/
theorem shrink_spec (decimal : Decimal) (within : power ≤ maxScale) :
    ∃ value, decimal.shrink power = .ok value
      ∧ value.toRat = nearest maxScale (decimal.toRat / 10 ^ power) := by
  refine ⟨_, dif_pos within, ?_⟩
  have total : maxScale - power + power = maxScale := Nat.sub_add_cancel within
  calc ((decimal.cut (maxScale - power)).signedCoefficient : ℚ)
        / 10 ^ ((decimal.cut (maxScale - power)).scale + power)
      = (decimal.cut (maxScale - power)).toRat / 10 ^ power := by
        rw [pow_add, ← div_div]
        rfl
    _ = nearest maxScale (decimal.toRat / 10 ^ power) := by
        rw [toRat_cut, ← nearest_div_pow, total]

/-- The powers of ten that are whole decimals. -/
theorem exists_powerOfTen (power : Nat) (few : power ≤ maxScale) :
    ∃ factor, ofParts? false (10 ^ power) 0 = some factor ∧ factor.toRat = 10 ^ power := by
  have small : 10 ^ power < limit :=
    lt_of_le_of_lt (Nat.pow_le_pow_right (by decide) few) (by decide)
  refine ⟨_, dif_pos ⟨small, Nat.zero_le _⟩, ?_⟩
  simp [toRat_ofParts]

/-- A decimal with its point further to the right, among its places. -/
def shiftPoint (decimal : Decimal) (power : Nat) : Decimal :=
  { decimal with
    scale := decimal.scale - power
    scale_le := (Nat.sub_le _ _).trans decimal.scale_le }

theorem toRat_shiftPoint (few : power ≤ decimal.scale) :
    (decimal.shiftPoint power).toRat = decimal.toRat * 10 ^ power := by
  have split : (10 : ℚ) ^ decimal.scale = 10 ^ (decimal.scale - power) * 10 ^ power := by
    rw [← pow_add, Nat.sub_add_cancel few]
  change (decimal.signedCoefficient : ℚ) / 10 ^ (decimal.scale - power)
    = decimal.signedCoefficient / 10 ^ decimal.scale * 10 ^ power
  rw [split]
  field_simp

/-- A whole number below the limit is a decimal. -/
theorem exists_toRat_eq {whole : ℤ} (small : |(whole : ℚ)| < limit) :
    ∃ decimal : Decimal, decimal.toRat = whole := by
  have magnitude : whole.natAbs < limit := by
    rw [← Nat.cast_lt (α := ℚ), Nat.cast_natAbs, Int.cast_abs]
    exact small
  refine ⟨⟨decide (whole < 0), whole.natAbs, 0, magnitude, Nat.zero_le _⟩, ?_⟩
  have signed_eq : (if decide (whole < 0) then -(whole.natAbs : ℤ) else whole.natAbs) = whole := by
    split <;> rename_i sign <;> rw [decide_eq_true_eq] at sign <;> omega
  unfold toRat signedCoefficient
  rw [signed_eq, pow_zero, div_one]

/-- **A decimal times a power of ten is exact**, or it is too large. -/
theorem mul?_powerOfTen (decimal : Decimal) {factor : Decimal}
    (factor_eq : factor.toRat = 10 ^ power) :
    (∃ value, decimal.mul? factor = some value ∧ value.toRat = decimal.toRat * 10 ^ power)
      ∨ decimal.mul? factor = none ∧ (limit : ℚ) ≤ |decimal.toRat * 10 ^ power| := by
  have found_of_exists (other : Decimal) (same : other.toRat = decimal.toRat * 10 ^ power) :
      ∃ value, decimal.mul? factor = some value ∧ value.toRat = decimal.toRat * 10 ^ power := by
    rw [← factor_eq] at same ⊢
    obtain ⟨value, found⟩ := exists_mul? (same ▸ other.abs_toRat_le)
    exact ⟨value, found, (mul?_fits found).eq_of_exists other same⟩
  rcases Nat.le_total power decimal.scale with fewer | more
  · exact Or.inl (found_of_exists _ (toRat_shiftPoint fewer))
  · have whole := toRat_mul_pow more
    rcases lt_or_ge |decimal.toRat * 10 ^ power| (limit : ℚ) with small | large
    · obtain ⟨other, same⟩ := exists_toRat_eq (whole ▸ small)
      exact Or.inl (found_of_exists other (same.trans whole.symm))
    · refine Or.inr ⟨?_, large⟩
      cases found : decimal.mul? factor with
      | none => rfl
      | some value =>
        have below := (mul?_fits found).lt_limit
        rw [factor_eq] at below
        exact absurd large (not_le.mpr below)

/-- **A decimal is multiplied with a power of ten exactly**, or the product is too large. -/
theorem grow_spec (decimal : Decimal) (within : power ≤ maxScale) :
    (∃ value, decimal.grow power = .ok value ∧ value.toRat = decimal.toRat * 10 ^ power)
      ∨ (∃ fault, decimal.grow power = .error fault)
        ∧ (limit : ℚ) ≤ |decimal.toRat * 10 ^ power| := by
  unfold grow
  split
  · rename_i few
    exact Or.inl ⟨decimal.shiftPoint power, rfl, toRat_shiftPoint few⟩
  · obtain ⟨first, first_found, first_eq⟩ :=
      exists_powerOfTen (min power 19) ((Nat.min_le_left _ _).trans within)
    obtain ⟨second, second_found, second_eq⟩ :=
      exists_powerOfTen (power - min power 19) ((Nat.sub_le _ _).trans within)
    have split : (10 : ℚ) ^ power = 10 ^ min power 19 * 10 ^ (power - min power 19) := by
      rw [← pow_add, Nat.add_sub_cancel' (Nat.min_le_left _ _)]
    simp only [Nat.pow_eq, first_found, second_found, Option.bind_eq_bind,
      Option.bind_some]
    rw [split, ← mul_assoc]
    rcases decimal.mul?_powerOfTen first_eq with ⟨base, base_found, base_eq⟩ | ⟨none, large⟩
    · rw [base_found, ← base_eq, Option.bind_some]
      rcases base.mul?_powerOfTen second_eq with ⟨product, found, same⟩ | ⟨none, large⟩
      · rw [found]
        refine Or.inl ⟨product.trim, rfl, ?_⟩
        rw [← same]
        exact sameValue_iff_toRat.mp product.sameValue_trim
      · rw [none]
        exact Or.inr ⟨⟨_, rfl⟩, large⟩
    · rw [none]
      have least : 1 ≤ |(10 : ℚ) ^ (power - min power 19)| := by
        rw [abs_of_pos (by positivity)]
        exact one_le_pow₀ (by norm_num)
      refine Or.inr ⟨⟨_, rfl⟩, large.trans ?_⟩
      rw [abs_mul _ ((10 : ℚ) ^ (power - min power 19))]
      exact le_mul_of_one_le_right (abs_nonneg _) least

/-! ### Exponents -/

/-- What a reader makes of a number: the nearest number with 28 places, or an error where the number
is out of bounds. -/
def ReadsAs (x : ℚ) : Except NumeralError Decimal → Prop
  | .ok value => ¬OutOfBounds x ∧ value.toRat = nearest maxScale x
  | .error _ => OutOfBounds x

/-- A number that a decimal has as its value is within bounds and has 28 places. -/
theorem readsAs_of_toRat_eq (same : value.toRat = x) : ReadsAs x (.ok value) := by
  refine ⟨fun out => toRat_ne_of_outOfBounds out value same, ?_⟩
  rw [← same, nearest_toRat]

theorem readExponent_digits (power : Nat) : readExponent (Text.digits power)
    = if power < 2 ^ 32 then .ok power else .error .badExponent := by
  have read : Text.readNat? (String.ofList (Text.digits power)) = some power := by
    unfold Text.readNat?
    rw [String.toList_ofList]
    split
    case h_1 nothing => exact absurd nothing (Text.digits_ne_nil power)
    case h_4 => exact Text.natOfDigits?_digits power
    all_goals
      rename_i starts
      exact absurd starts (Text.digits_ne_cons rfl _ _)
  unfold readExponent
  rw [read]
  rfl

section Exponent

variable {step : Nat → Except NumeralError Decimal}

theorem readExponent_bind_of_le (within : power ≤ maxScale) :
    (readExponent (Text.digits power) >>= step) = step power := by
  have small : power < 2 ^ 32 := within.trans_lt (by decide)
  rw [readExponent_digits, if_pos small]
  rfl

/-- An exponent that is refused, be it for its size or by the step it is for. -/
theorem readExponent_bind_of_lt (refused : step power = .error (.exponentTooLarge power)) :
    ∃ fault, (readExponent (Text.digits power) >>= step) = .error fault := by
  rw [readExponent_digits]
  split
  · exact ⟨_, refused⟩
  · exact ⟨_, rfl⟩

end Exponent

theorem readScientific_neg {numeral : List Char} (base : readNumeral numeral = .ok decimal)
    (some_power : 0 < power) : readScientific numeral (Text.writeInt (-(power : ℤ))).toList
      = readExponent (Text.digits power) >>= decimal.shrink := by
  have magnitude : (-(power : ℤ)).natAbs = power := by omega
  unfold readScientific
  rw [base, Text.toList_writeInt_of_neg (by omega), magnitude]
  rfl

theorem readScientific_nonneg {numeral : List Char} (base : readNumeral numeral = .ok decimal)
    (power : Nat) : readScientific numeral (Text.writeInt power).toList
      = readExponent (Text.digits power) >>= decimal.grow := by
  unfold readScientific
  rw [base, Text.toList_writeInt_of_nonneg (Int.natCast_nonneg power), Int.natAbs_natCast]
  simp only [bind, Except.bind]
  split
  · rename_i starts
    exact absurd starts (Text.digits_ne_cons rfl _ _)
  · rfl

section OneDigit

variable (least : 1 ≤ |decimal.toRat|) (most : |decimal.toRat| < 10)

include least most

/-- A number below ten with a negative exponent is refused where it is below the last place. -/
theorem readsAs_shrink : ReadsAs (decimal.toRat / 10 ^ power)
    (readExponent (Text.digits power) >>= decimal.shrink) := by
  have unit : (0 : ℚ) < 10 ^ power := by positivity
  have size : |decimal.toRat / 10 ^ power| = |decimal.toRat| / 10 ^ power := by
    rw [abs_div, abs_of_pos unit]
  rcases Nat.lt_or_ge maxScale power with large | within
  · have refuses : decimal.shrink power = .error (.exponentTooLarge power) :=
      dif_neg (Nat.not_le.mpr large)
    obtain ⟨fault, refused⟩ := readExponent_bind_of_lt refuses
    have tenfold : (10 : ℚ) * 10 ^ maxScale ≤ 10 ^ power := by
      rw [← pow_succ']
      exact pow_le_pow_right₀ (by norm_num) large
    rw [refused]
    refine Or.inr ⟨by rw [size]; positivity, ?_⟩
    rw [size, div_lt_div_iff₀ unit (by positivity), one_mul]
    exact (mul_lt_mul_of_pos_right most (by positivity)).trans_le tenfold
  · obtain ⟨value, found, value_eq⟩ := decimal.shrink_spec within
    rw [readExponent_bind_of_le within, found]
    refine ⟨?_, value_eq⟩
    rintro (large | ⟨-, tiny⟩)
    · have ten_le : (10 : ℚ) ≤ limit := by norm_num [limit]
      have small : |decimal.toRat| / 10 ^ power ≤ |decimal.toRat| :=
        div_le_self (abs_nonneg _) (one_le_pow₀ (by norm_num))
      rw [size] at large
      linarith
    · refine absurd tiny (not_lt.mpr ?_)
      rw [size]
      gcongr
      norm_num

omit most in
/-- A number of one or more with an exponent is refused where it is too large. -/
theorem readsAs_grow : ReadsAs (decimal.toRat * 10 ^ power)
    (readExponent (Text.digits power) >>= decimal.grow) := by
  rcases Nat.lt_or_ge maxScale power with large | within
  · have short : ¬power ≤ decimal.scale := by
      have few := decimal.scale_le
      omega
    have refuses : decimal.grow power = .error (.exponentTooLarge power) := by
      unfold grow
      rw [if_neg short, if_neg (Nat.not_le.mpr large)]
    obtain ⟨fault, refused⟩ := readExponent_bind_of_lt refuses
    rw [refused]
    left
    calc (limit : ℚ) ≤ 1 * 10 ^ (maxScale + 1) := by norm_num [limit, maxScale]
      _ ≤ |decimal.toRat| * 10 ^ power := by
        gcongr
        · norm_num
        · exact large
      _ = |decimal.toRat * 10 ^ power| := by
        rw [abs_mul, abs_of_pos (by positivity : (0 : ℚ) < 10 ^ power)]
  · rw [readExponent_bind_of_le within]
    rcases decimal.grow_spec within with ⟨value, found, same⟩ | ⟨⟨fault, refused⟩, large⟩
    · rw [found]
      exact readsAs_of_toRat_eq same
    · rw [refused]
      exact Or.inl large

/-- **A numeral with one digit before its point and an exponent** is read as what it stands for. -/
theorem readsAs_readScientific {numeral : List Char} (base : readNumeral numeral = .ok decimal)
    (exponent : ℤ) : ReadsAs (decimal.toRat * 10 ^ exponent)
      (readScientific numeral (Text.writeInt exponent).toList) := by
  rcases lt_or_ge exponent 0 with negative | positive
  · obtain ⟨power, power_eq⟩ := Int.eq_ofNat_of_zero_le (show 0 ≤ -exponent by omega)
    obtain rfl : exponent = -(power : ℤ) := by omega
    rw [readScientific_neg base (by omega), zpow_neg, zpow_natCast, ← div_eq_mul_inv]
    exact readsAs_shrink least most
  · obtain ⟨power, rfl⟩ := Int.eq_ofNat_of_zero_le positive
    rw [readScientific_nonneg base, zpow_natCast]
    exact readsAs_grow least

end OneDigit

end Paydesk.Decimal
