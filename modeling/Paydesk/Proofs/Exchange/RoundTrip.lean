/-
**Converting forth and back.**

An amount that is converted at a rate, and then at the inverse rate, goes through five roundings:
two products, two amounts in cents and the inverse itself. What it comes back with differs by the
half cent of the way back, by the half cent of the way there at the inverse rate, and by next to
nothing else. As both are whole numbers of cents, that is a cent, or a cent at the inverse rate.

* `Decimal.IsQuotient.mul_close`: an inverse times its number;
* `ExchangeRate.exists_inverse`: **the inverse of a rate**;
* `ExchangeRate.exists_convert`: what a conversion is off by;
* `abs_sub_le_of_round_trip`: the errors of both conversions together;
* `ExchangeRate.round_trip`: **converting forth and back**.
-/

import Paydesk.Proofs.Exchange.Conversion

namespace Paydesk

/-! ### Inverses -/

namespace Decimal

/-- A coefficient with places is off by at most half a unit in the last of them. -/
theorem IsQuotient.error_le {exact : ℚ} {coefficient places : Nat}
    (isQuotient : IsQuotient exact coefficient places) :
    |coefficient / 10 ^ places - exact| ≤ 1 / (2 * 10 ^ places) := by
  have unit : (0 : ℚ) < 10 ^ places := by positivity
  have upper := isQuotient.upper
  have lower := isQuotient.lower
  have scaled : coefficient / 10 ^ places - exact
      = (coefficient - exact * 10 ^ places) / 10 ^ places := by field_simp
  rw [scaled, abs_div, abs_of_pos unit, ← div_div]
  refine div_le_div_of_nonneg_right ?_ unit.le
  exact abs_le.mpr ⟨by linarith, by linarith⟩

/-- **An inverse times its number is one**, but for a part in `10 ^ 20`: it is exact, has 28 places,
or has nearly all bits of a coefficient, whose last place is a part in `10 ^ 27`. -/
theorem IsQuotient.mul_close {x : ℚ} {coefficient places : Nat} (positive : 0 < x)
    (most : x ≤ 10 ^ 8) (isQuotient : IsQuotient (1 / x) coefficient places) :
    |coefficient / 10 ^ places * x - 1| ≤ 1 / 10 ^ 20 := by
  have unit : (0 : ℚ) < 10 ^ places := by positivity
  have split : coefficient / 10 ^ places * x - 1 = (coefficient / 10 ^ places - 1 / x) * x := by
    field_simp
  have error : |coefficient / 10 ^ places * x - 1| ≤ x / (2 * 10 ^ places) := by
    rw [split, abs_mul, abs_of_pos positive]
    refine (mul_le_mul_of_nonneg_right isQuotient.error_le positive.le).trans_eq ?_
    rw [div_mul_eq_mul_div, one_mul]
  rcases isQuotient.full with exact_end | all_places | nearly
  · have met : coefficient / 10 ^ places * x - 1 = 0 := by
      rw [exact_end, mul_div_cancel_right₀ _ unit.ne', one_div_mul_cancel positive.ne', sub_self]
    rw [met, abs_zero]
    positivity
  · subst all_places
    refine error.trans ?_
    rw [div_le_div_iff₀ (by positivity) (by positivity)]
    norm_num [maxScale] at most ⊢
    linarith
  · have bits : (10 : ℚ) ^ 28 + 20 ≤ limit := by
      exact_mod_cast (by decide : 10 ^ 28 + 20 ≤ limit)
    have nearly_rat : (limit : ℚ) ≤ 10 * (coefficient + 1) := by exact_mod_cast nearly
    have lower := isQuotient.lower
    have large : (10 : ℚ) ^ 27 ≤ 10 ^ places / x := by
      have same : 1 / x * 10 ^ places = 10 ^ places / x := by ring
      rw [same] at lower
      linarith
    rw [le_div_iff₀ positive] at large
    refine error.trans ?_
    rw [div_le_div_iff₀ (by positivity) (by positivity)]
    norm_num at large ⊢
    linarith

/-- The magnitude of a value without some zeros at its end. -/
theorem IsShortened.abs_toRat {coefficient places : Nat} {value : Decimal}
    (shortened : IsShortened (coefficient, places) (value.coefficient, value.scale)) :
    |value.toRat| = coefficient / 10 ^ places := by
  obtain ⟨dropped, digits, scales⟩ := shortened
  simp only at digits scales
  have unit : (10 : ℚ) ^ dropped ≠ 0 := pow_ne_zero _ (by norm_num)
  rw [Decimal.abs_toRat, digits, scales, pow_add, Nat.cast_mul, Nat.cast_pow, Nat.cast_ofNat,
    mul_div_mul_right _ _ unit]

/-- **One divided by a number** that is not too small is as near to the fraction as there is room
for. -/
theorem exists_div?_one {number : Decimal} (number_pos : 0 < number.toRat)
    (least : 1 / 10 ^ 8 ≤ number.toRat) :
    ∃ (opposite : Decimal) (coefficient places : Nat), ExchangeRate.one.div? number = some opposite
      ∧ opposite.toRat = coefficient / 10 ^ places
      ∧ IsQuotient (1 / number.toRat) coefficient places := by
  have sign : number.negative = false ∧ number.isZero = false := by
    have positive := toRat_pos_iff.mp number_pos
    rw [isPositive, Bool.and_eq_true, Bool.not_eq_true', bne_iff_ne] at positive
    exact ⟨positive.1, beq_eq_false_iff_ne.mpr positive.2⟩
  have magnitude : number.toRat = number.coefficient / 10 ^ number.scale := by
    rw [← abs_of_pos number_pos, abs_toRat]
  have digits : 0 < number.coefficient := Nat.pos_of_ne_zero (beq_eq_false_iff_ne.mp sign.2)
  have unit : (0 : ℚ) < 10 ^ number.scale := by positivity
  have one_eq : 1 / number.coefficient * number.coefficient + 1 % number.coefficient = 1 :=
    Nat.div_add_mod' 1 number.coefficient
  have room : (1 / number.coefficient * number.coefficient + 1 % number.coefficient)
      * 10 ^ number.scale * 10 ^ 9 < limit * number.coefficient := by
    have few : 10 ^ number.scale ≤ number.coefficient * 10 ^ 8 := by
      rw [magnitude, div_le_div_iff₀ (by positivity) unit, one_mul] at least
      exact_mod_cast least
    have large : 10 ^ 8 * 10 ^ 9 < limit := by decide
    rw [one_eq, Nat.one_mul]
    calc 10 ^ number.scale * 10 ^ 9 ≤ number.coefficient * 10 ^ 8 * 10 ^ 9 :=
          Nat.mul_le_mul_right _ few
      _ = 10 ^ 8 * 10 ^ 9 * number.coefficient := by ring
      _ < limit * number.coefficient := Nat.mul_lt_mul_of_pos_right large digits
  obtain ⟨coefficient, places, found, isQuotient⟩ :=
    Division.run?_below_spec (Nat.mod_lt 1 digits) room (Nat.lt_add_one (maxScale + number.scale))
  have exact_eq : ((1 / number.coefficient * number.coefficient + 1 % number.coefficient : ℕ) : ℚ)
      / number.coefficient * 10 ^ number.scale = 1 / number.toRat := by
    rw [one_eq, magnitude, Nat.cast_one, one_div_div, div_mul_eq_mul_div, one_mul]
  rw [exact_eq] at isQuotient
  have start : Division.start ExchangeRate.one number
      = ⟨1 / number.coefficient, 1 % number.coefficient, -(number.scale : Int)⟩ := by
    rw [Division.start, ← zero_sub]
    rfl
  have steps : ((maxScale : Int) - -(number.scale : Int)).toNat + 1 = maxScale + number.scale + 1 := by
    omega
  obtain ⟨opposite, divided, opposite_sign, shortened⟩ :=
    div?_of_run? (by decide : ExchangeRate.one.isZero = false) sign.2
      (by rw [start, steps]; exact found) isQuotient.small isQuotient.short
  refine ⟨opposite, coefficient, places, divided, ?_, isQuotient⟩
  have unsigned : opposite.negative = false := by
    rw [opposite_sign, sign.1]
    rfl
  rw [← shortened.abs_toRat, abs_of_nonneg]
  rw [toRat_eq_signed, unsigned]
  simp only [Bool.false_eq_true, if_false, one_mul]
  positivity

/-- **The inverse of a number** that is neither too small nor too large. -/
theorem exists_inverse {number : Decimal} (least : 1 / 10 ^ 8 ≤ number.toRat)
    (most : number.toRat ≤ 10 ^ 8) :
    ∃ opposite, ExchangeRate.one.div? number = some opposite ∧ 0 < opposite.toRat
      ∧ |opposite.toRat * number.toRat - 1| ≤ 1 / 10 ^ 20 := by
  have number_pos : 0 < number.toRat := lt_of_lt_of_le (by positivity) least
  obtain ⟨opposite, coefficient, places, divided, opposite_eq, isQuotient⟩ :=
    exists_div?_one number_pos least
  have close := isQuotient.mul_close number_pos most
  rw [← opposite_eq] at close
  refine ⟨opposite, divided, ?_, close⟩
  have above := (abs_le.mp close).1
  have product_pos : 0 < opposite.toRat * number.toRat := by
    norm_num at above ⊢
    linarith
  exact pos_of_mul_pos_left product_pos number_pos.le

end Decimal

/-! ### Both conversions -/

/-- What a conversion is off by at most: half a cent, and half a unit in the eighth place. -/
def conversionError : ℚ := 1 / 200 + 1 / (2 * 10 ^ 8)

/-- There is room for eight places of a number up to `10 ^ 20`. -/
theorem room_of_le {x : ℚ} (small : |x| ≤ 10 ^ 20) : |x| * 10 ^ 8 ≤ Decimal.limit - 1 := by
  have room : (10 : ℚ) ^ 20 * 10 ^ 8 ≤ Decimal.limit - 1 := by
    rw [le_sub_iff_add_le]
    exact_mod_cast (by decide : 10 ^ 20 * 10 ^ 8 + 1 ≤ Decimal.limit)
  exact (mul_le_mul_of_nonneg_right small (by positivity)).trans room

/-- **The errors of both conversions together**: half a cent of the way back, half a cent of the way
there at the inverse rate, and next to nothing else. -/
theorem abs_sub_le_of_round_trip {amount there back rate inverse : ℚ} (positive : 0 < inverse)
    (small : |amount| ≤ 10 ^ 12) (close : |inverse * rate - 1| ≤ 1 / 10 ^ 20)
    (forth : |there - amount * rate| ≤ conversionError)
    (home : |back - there * inverse| ≤ conversionError) :
    |back - amount| ≤ conversionError + conversionError * inverse + 1 / 10 ^ 8 := by
  have split : back - amount = back - there * inverse + (there - amount * rate) * inverse
      + amount * (inverse * rate - 1) := by ring
  have first : |(there - amount * rate) * inverse| ≤ conversionError * inverse := by
    rw [abs_mul, abs_of_pos positive]
    exact mul_le_mul_of_nonneg_right forth positive.le
  have second : |amount * (inverse * rate - 1)| ≤ 1 / 10 ^ 8 := by
    rw [abs_mul]
    calc |amount| * |inverse * rate - 1| ≤ 10 ^ 12 * (1 / 10 ^ 20) :=
          mul_le_mul small close (abs_nonneg _) (by positivity)
      _ = 1 / 10 ^ 8 := by norm_num
  rw [split]
  calc |back - there * inverse + (there - amount * rate) * inverse + amount * (inverse * rate - 1)|
      ≤ |back - there * inverse| + |(there - amount * rate) * inverse|
        + |amount * (inverse * rate - 1)| := abs_add_three _ _ _
    _ ≤ conversionError + conversionError * inverse + 1 / 10 ^ 8 :=
        add_le_add (add_le_add home first) second

/-- What an amount was converted to has room on the way back. -/
theorem abs_mul_inverse_le {amount there rate inverse : ℚ} (least : 1 / 10 ^ 8 ≤ rate)
    (positive : 0 < inverse) (small : |amount| ≤ 10 ^ 12)
    (close : |inverse * rate - 1| ≤ 1 / 10 ^ 20)
    (forth : |there - amount * rate| ≤ conversionError) : |there * inverse| ≤ 10 ^ 20 := by
  have rate_pos : 0 < rate := lt_of_lt_of_le (by positivity) least
  have product_le : inverse * rate ≤ 2 := by
    have above := (abs_le.mp close).2
    norm_num at above
    linarith
  have inverse_le : inverse ≤ 2 * 10 ^ 8 := by
    have scaled := mul_le_mul_of_nonneg_left least positive.le
    norm_num at scaled ⊢
    linarith
  have there_le : |there| ≤ 10 ^ 12 * rate + 1 := by
    have apart := abs_sub_abs_le_abs_sub there (amount * rate)
    have exact_le : |amount * rate| ≤ 10 ^ 12 * rate := by
      rw [abs_mul, abs_of_pos rate_pos]
      exact mul_le_mul_of_nonneg_right small rate_pos.le
    have error_le : conversionError ≤ 1 := by norm_num [conversionError]
    linarith
  calc |there * inverse| = |there| * inverse := by rw [abs_mul, abs_of_pos positive]
    _ ≤ (10 ^ 12 * rate + 1) * inverse := mul_le_mul_of_nonneg_right there_le positive.le
    _ = 10 ^ 12 * (inverse * rate) + inverse := by ring
    _ ≤ 10 ^ 12 * 2 + 2 * 10 ^ 8 := by linarith
    _ ≤ 10 ^ 20 := by norm_num

/-- **A whole number of cents with so small an error** is a cent at most, or a cent at the inverse
rate: two cents or more come only from a rate far below one. -/
theorem abs_le_max_of_whole {error rate inverse : ℚ} {cents : ℤ} (positive : 0 < rate)
    (close : |inverse * rate - 1| ≤ 1 / 10 ^ 20) (whole : error = cents / 100)
    (bound : |error| ≤ conversionError + conversionError * inverse + 1 / 10 ^ 8) :
    |error| ≤ max (1 / 100) (1 / 100 / rate) := by
  rcases le_or_gt |cents| 1 with one | several
  · refine le_max_of_le_left ?_
    have one_rat : |(cents : ℚ)| ≤ 1 := by exact_mod_cast one
    rw [whole, abs_div, abs_of_pos (by norm_num : (0 : ℚ) < 100)]
    linarith
  · refine le_max_of_le_right ?_
    have several_rat : (2 : ℚ) ≤ |(cents : ℚ)| := by exact_mod_cast several
    have least : 2 / 100 ≤ |error| := by
      rw [whole, abs_div, abs_of_pos (by norm_num : (0 : ℚ) < 100)]
      linarith
    have inverse_le : inverse ≤ (1 + 1 / 10 ^ 20) * (1 / rate) := by
      rw [mul_one_div, le_div_iff₀ positive]
      have above := (abs_le.mp close).2
      linarith
    have cent_eq : 1 / 100 / rate = 1 / 100 * (1 / rate) := by ring
    unfold conversionError at bound
    rw [cent_eq]
    norm_num at bound inverse_le least ⊢
    linarith

namespace ExchangeRate

variable {rate : ExchangeRate} {amount : Amount}

/-- **What a conversion is off by.** -/
theorem exists_convert (positive : 0 < rate.rate.toRat)
    (small : |amount.toRat * rate.rate.toRat| ≤ 10 ^ 20) :
    ∃ converted, rate.convert amount = .ok converted
      ∧ |converted.toRat - amount.toRat * rate.rate.toRat| ≤ conversionError := by
  have room := room_of_le small
  have largest : |amount.toRat * rate.rate.toRat| ≤ Decimal.limit - 1 :=
    (le_mul_of_one_le_right (abs_nonneg _) (by norm_num)).trans room
  obtain ⟨converted, scaled⟩ := Amount.exists_scale? largest
  exact ⟨converted, convert_eq_ok_iff.mpr ⟨positive, scaled⟩,
    (Amount.rounds_of_scale? scaled).near 8 (by decide) room⟩

/-- **The inverse of a rate.** -/
theorem exists_inverse (least : 1 / 10 ^ 8 ≤ rate.rate.toRat) (most : rate.rate.toRat ≤ 10 ^ 8) :
    ∃ inverse, rate.inverse = .ok inverse ∧ 0 < inverse.rate.toRat
      ∧ |inverse.rate.toRat * rate.rate.toRat - 1| ≤ 1 / 10 ^ 20 := by
  obtain ⟨opposite, divided, positive, close⟩ := Decimal.exists_inverse least most
  have rate_pos : rate.rate.isPositive :=
    Decimal.toRat_pos_iff.mp (lt_of_lt_of_le (by positivity) least)
  have nonzero : opposite.isZero = false := by
    refine Bool.eq_false_iff.mpr fun zero => ?_
    rw [Decimal.toRat_eq_zero_iff.mpr zero] at positive
    exact lt_irrefl _ positive
  refine ⟨⟨rate.quote, rate.base, opposite, rate.updatedAt⟩, ?_, positive, close⟩
  unfold inverse
  simp only [divided, nonzero, rate_pos, Bool.not_true, Bool.or_self, Bool.false_eq_true, if_false]

/-- **Converting forth and back.** For every rate from `10 ^ -8` to `10 ^ 8` and every amount up to
`10 ^ 12` in magnitude, the amount can be converted, the rate has an inverse, and what it was
converted to can be converted at the inverse; and what comes back differs from the amount by at most
a cent, or a cent divided by the rate if that is more. -/
theorem round_trip (rate : ExchangeRate) (amount : Amount) (least : 1 / 10 ^ 8 ≤ rate.rate.toRat)
    (most : rate.rate.toRat ≤ 10 ^ 8) (small : |amount.toRat| ≤ 10 ^ 12) :
    ∃ there inverse back, rate.convert amount = .ok there ∧ rate.inverse = .ok inverse
      ∧ inverse.convert there = .ok back
      ∧ |back.toRat - amount.toRat| ≤ max (1 / 100) (1 / 100 / rate.rate.toRat) := by
  have rate_pos : 0 < rate.rate.toRat := lt_of_lt_of_le (by positivity) least
  have size : |amount.toRat * rate.rate.toRat| ≤ 10 ^ 20 := by
    rw [abs_mul, abs_of_pos rate_pos]
    calc |amount.toRat| * rate.rate.toRat ≤ 10 ^ 12 * 10 ^ 8 :=
          mul_le_mul small most rate_pos.le (by positivity)
      _ = 10 ^ 20 := by norm_num
  obtain ⟨there, converted, forth⟩ := exists_convert rate_pos size
  obtain ⟨inverse, inverted, inverse_pos, close⟩ := exists_inverse least most
  obtain ⟨back, returned, home⟩ :=
    exists_convert inverse_pos (abs_mul_inverse_le least inverse_pos small close forth)
  have whole : back.toRat - amount.toRat = ((back.minor - amount.minor : ℤ) : ℚ) / 100 := by
    rw [Amount.toRat_eq_minor, Amount.toRat_eq_minor, ← sub_div]
    push_cast
    rfl
  exact ⟨there, inverse, back, converted, inverted, returned,
    abs_le_max_of_whole rate_pos close whole
      (abs_sub_le_of_round_trip inverse_pos small close forth home)⟩

/-- A hundred dollars in roubles and back, at 65 roubles for a dollar. -/
theorem round_trip_dollars :
    let rate : ExchangeRate := ⟨"USD", "RUB", ⟨false, 65, 0, by decide, by decide⟩, .epoch⟩
    ∃ there inverse back, rate.convert (.ofInt 100) = .ok there ∧ rate.inverse = .ok inverse
      ∧ inverse.convert there = .ok back
      ∧ |back.toRat - 100| ≤ max (1 / 100) (1 / 100 / rate.rate.toRat) := by
  intro rate
  have rate_eq : rate.rate.toRat = 65 := by
    rw [Decimal.toRat, (by decide : rate.rate.signedCoefficient = 65)]
    norm_num
  have amount_eq : (Amount.ofInt 100).toRat = 100 := by
    rw [Amount.toRat_eq_minor, (by decide : (Amount.ofInt 100).minor = 10000)]
    norm_num
  have trip := round_trip rate (.ofInt 100) (by rw [rate_eq]; norm_num) (by rw [rate_eq]; norm_num)
    (by rw [amount_eq]; norm_num)
  rwa [amount_eq] at trip

end ExchangeRate

end Paydesk
