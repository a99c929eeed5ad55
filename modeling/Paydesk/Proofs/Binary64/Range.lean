/-
**Doubles of moderate size.**

An operation on doubles has no result only where it overflows. Doubles of moderate size stay of
moderate size under a few operations, and the double of a decimal takes no more than a few.

* `Sized`, `Moderate`: numbers of so many places, and zero;
* `Within`: a double that is zero or the nearest to such a number;
* `within_add?`, `within_mul?`, `within_div?`, `within_round`: **operations on such doubles**;
* `Decimal.within_toBinary64`: **the double of a decimal**.
-/

import Paydesk.Proofs.Binary64.Decimal

namespace Paydesk

namespace Binary64

/-! ### Sizes -/

/-- A number of so many places before or after the point. -/
structure Sized (size : Nat) (x : ℚ) : Prop where
  least : 1 / 10 ^ size ≤ x
  most : x ≤ 10 ^ size

/-- Zero, or a number of some size. -/
def Moderate (size : Nat) (x : ℚ) : Prop := x = 0 ∨ Sized size x

/-- A double without a sign that is zero, or the nearest to a number of some size. -/
structure Within (size : Nat) (number : Binary64) : Prop where
  unsigned : number.negative = false
  rounds : number.isZero = false → ∃ x, number.Rounds x ∧ Sized size x

variable {size other : Nat} {x y : ℚ} {number first second : Binary64}

theorem Sized.mono (sized : Sized size x) (more : size ≤ other) : Sized other x := by
  have powers : (10 : ℚ) ^ size ≤ 10 ^ other := pow_le_pow_right₀ (by norm_num) more
  exact ⟨(one_div_le_one_div_of_le (by positivity) powers).trans sized.least,
    sized.most.trans powers⟩

theorem Sized.pos (sized : Sized size x) : 0 < x := lt_of_lt_of_le (by positivity) sized.least

theorem Sized.mul (sized : Sized size x) (sized_other : Sized other y) :
    Sized (size + other) (x * y) := by
  have positive := sized.pos
  have positive_other := sized_other.pos
  obtain ⟨least, most⟩ := sized
  obtain ⟨least_other, most_other⟩ := sized_other
  refine ⟨?_, ?_⟩
  · calc (1 : ℚ) / 10 ^ (size + other) = 1 / 10 ^ size * (1 / 10 ^ other) := by
          rw [pow_add]
          field_simp
      _ ≤ x * y := by gcongr
  · rw [pow_add]
    gcongr

theorem Sized.inv (sized : Sized size x) : Sized size x⁻¹ := by
  have positive := sized.pos
  obtain ⟨least, most⟩ := sized
  refine ⟨?_, ?_⟩
  · rw [one_div]
    exact inv_anti₀ positive most
  · rw [one_div] at least
    exact inv_le_of_inv_le₀ (by positivity) least

theorem Sized.div (sized : Sized size x) (sized_other : Sized other y) :
    Sized (size + other) (x / y) := by
  rw [div_eq_mul_inv]
  exact sized.mul sized_other.inv

/-- What is near a number is of about its size. -/
theorem Sized.near (sized : Sized size x) (near : |y - x| ≤ x / 2) : Sized (size + 1) y := by
  have positive := sized.pos
  obtain ⟨lower, upper⟩ := abs_le.mp near
  obtain ⟨least, most⟩ := sized
  refine ⟨?_, ?_⟩
  · calc (1 : ℚ) / 10 ^ (size + 1) = 1 / 10 ^ size * (1 / 10) := by
          rw [pow_succ]
          field_simp
      _ ≤ x * (1 / 10) := by gcongr
      _ ≤ y := by linarith
  · rw [pow_succ]
    linarith

theorem Sized.add (sized : Sized size x) (sized_other : Sized size y) :
    Sized (size + 1) (x + y) := by
  have positive := sized_other.pos
  have unit : (0 : ℚ) < 10 ^ size := by positivity
  refine ⟨?_, ?_⟩
  · have least := (sized.mono (Nat.le_add_right size 1)).least
    linarith
  · have most := sized.most
    have most_other := sized_other.most
    rw [pow_succ]
    linarith

theorem Moderate.mul (moderate : Moderate size x) (moderate_other : Moderate other y) :
    Moderate (size + other) (x * y) := by
  rcases moderate with rfl | sized
  · exact Or.inl (zero_mul y)
  · rcases moderate_other with rfl | sized_other
    · exact Or.inl (mul_zero x)
    · exact Or.inr (sized.mul sized_other)

theorem Moderate.div (moderate : Moderate size x) (sized_other : Sized other y) :
    Moderate (size + other) (x / y) := by
  rcases moderate with rfl | sized
  · exact Or.inl (zero_div y)
  · exact Or.inr (sized.div sized_other)

theorem Moderate.add (moderate : Moderate size x) (moderate_other : Moderate size y) :
    Moderate (size + 1) (x + y) := by
  rcases moderate with rfl | sized
  · rw [zero_add]
    exact moderate_other.imp_right (·.mono (Nat.le_add_right size 1))
  · rcases moderate_other with rfl | sized_other
    · rw [add_zero]
      exact Or.inr (sized.mono (Nat.le_add_right size 1))
    · exact Or.inr (sized.add sized_other)

theorem Sized.inRange (sized : Sized size x) (short : size ≤ 200) : InRange x :=
  .of_bounds (sized.mono short).least (sized.mono short).most

/-- A whole number of at most so many digits. -/
theorem moderate_natCast {count : Nat} (small : count ≤ 10 ^ size) : Moderate size count := by
  rcases Nat.eq_zero_or_pos count with rfl | positive
  · exact Or.inl Nat.cast_zero
  · have one_le : (1 : ℚ) ≤ count := by exact_mod_cast positive
    have unit_le : (1 : ℚ) / 10 ^ size ≤ 1 := by
      rw [div_le_one (by positivity)]
      exact one_le_pow₀ (by norm_num)
    exact Or.inr ⟨unit_le.trans one_le, by exact_mod_cast small⟩

/-! ### Operations -/

theorem Within.mono (within : number.Within size) (more : size ≤ other) : number.Within other := by
  refine ⟨within.unsigned, fun some_digit => ?_⟩
  obtain ⟨x, rounds, sized⟩ := within.rounds some_digit
  exact ⟨x, rounds, sized.mono more⟩

/-- The value of such a double. -/
theorem Within.value (within : number.Within size) (some_digit : number.isZero = false) :
    Sized (size + 1) number.value := by
  obtain ⟨x, rounds, sized⟩ := within.rounds some_digit
  refine sized.near (rounds.error_le.trans ?_)
  have positive := sized.pos
  gcongr
  norm_num

theorem Within.moderate (within : number.Within size) : Moderate (size + 1) number.value := by
  cases zero : number.isZero with
  | true =>
    have mantissa : number.mantissa = 0 := beq_iff_eq.mp zero
    refine Or.inl ?_
    unfold Binary64.value
    rw [mantissa, Nat.cast_zero, zero_mul]
  | false => exact Or.inr (within.value zero)

theorem within_zero (size : Nat) : (zero false).Within size :=
  ⟨rfl, fun some_digit => by cases some_digit⟩

/-- The double nearest to a fraction of moderate size. -/
theorem within_ofQuotient? {num den : Nat} (some_den : 0 < den) (equal : (num : ℚ) / den = x)
    (moderate : Moderate size x) (short : size ≤ 200) :
    ∃ number, ofQuotient? false num den = some number ∧ number.Within size
      ∧ (x ≠ 0 → number.isZero = false) := by
  rcases moderate with nothing | sized
  · have numerator : num = 0 := by
      have den_ne : (den : ℚ) ≠ 0 := by exact_mod_cast some_den.ne'
      rw [nothing] at equal
      exact_mod_cast (div_eq_zero_iff.mp equal).resolve_right den_ne
    exact ⟨zero false, if_pos (Or.inl numerator), within_zero size, fun some_x => absurd nothing some_x⟩
  · obtain ⟨number, found, unsigned, rounds⟩ := exists_rounds some_den equal (sized.inRange short)
    exact ⟨number, found, ⟨unsigned, fun _ => ⟨x, rounds, sized⟩⟩,
      fun _ => beq_eq_false_iff_ne.mpr rounds.mantissa_pos.ne'⟩

theorem within_ofNat? {count : Nat} (small : count ≤ 10 ^ size) (short : size ≤ 200) :
    ∃ number, ofNat? count = some number ∧ number.Within size
      ∧ (0 < count → number.isZero = false) := by
  have whole : (count : ℚ) / (1 : ℕ) = count := by rw [Nat.cast_one, div_one]
  obtain ⟨number, found, within, some_digit⟩ :=
    within_ofQuotient? Nat.one_pos whole (moderate_natCast small) short
  exact ⟨number, found, within, fun positive => some_digit (by exact_mod_cast positive.ne')⟩

theorem within_powerOfTen? {power : Nat} (short : power ≤ 200) :
    ∃ ten, powerOfTen? power = some ten ∧ ten.Within power ∧ ten.isZero = false := by
  obtain ⟨ten, found, within, some_digit⟩ := within_ofNat? (le_refl (10 ^ power)) short
  exact ⟨ten, found, within, some_digit (Nat.pow_pos (by decide))⟩

theorem within_add? (within : first.Within size) (within_other : second.Within size)
    (short : size + 2 ≤ 200) :
    ∃ sum, first.add? second = some sum ∧ sum.Within (size + 2) := by
  obtain ⟨num, den, some_den, equal, found⟩ := add?_spec within.unsigned within_other.unsigned
  obtain ⟨sum, nearest, within_sum, -⟩ :=
    within_ofQuotient? some_den equal (within.moderate.add within_other.moderate) short
  exact ⟨sum, found.trans nearest, within_sum⟩

theorem within_mul? (within : first.Within size) (within_other : second.Within other)
    (short : size + 1 + (other + 1) ≤ 200) :
    ∃ product, first.mul? second = some product ∧ product.Within (size + 1 + (other + 1)) := by
  obtain ⟨num, den, some_den, equal, found⟩ := mul?_spec within.unsigned within_other.unsigned
  obtain ⟨product, nearest, within_product, -⟩ :=
    within_ofQuotient? some_den equal (within.moderate.mul within_other.moderate) short
  exact ⟨product, found.trans nearest, within_product⟩

theorem within_div? (within : first.Within size) (within_other : second.Within other)
    (some_digit : second.isZero = false) (short : size + 1 + (other + 1) ≤ 200) :
    ∃ quotient, first.div? second = some quotient ∧ quotient.Within (size + 1 + (other + 1)) := by
  have divisor := within_other.value some_digit
  obtain ⟨num, den, some_den, equal, found⟩ :=
    div?_spec within.unsigned within_other.unsigned divisor.pos
  obtain ⟨quotient, nearest, within_quotient, -⟩ :=
    within_ofQuotient? some_den equal (within.moderate.div divisor) short
  exact ⟨quotient, found.trans nearest, within_quotient⟩

/-- The nearest whole number has one digit more at most. -/
theorem Within.quotientHalfUp_le (within : number.Within size) :
    quotientHalfUp number.numerator number.denominator ≤ 10 ^ (size + 2) := by
  have value_le : number.value ≤ 10 ^ (size + 1) := by
    rcases within.moderate with nothing | sized
    · rw [nothing]
      positivity
    · exact sized.most
  have den_pos : (0 : ℚ) < number.denominator := by exact_mod_cast number.denominator_pos
  rw [value_eq_div, div_le_iff₀ den_pos] at value_le
  have numerator_le : number.numerator ≤ 10 ^ (size + 1) * number.denominator := by
    exact_mod_cast value_le
  have one_le : 1 ≤ 10 ^ (size + 1) := Nat.pow_pos (by decide)
  have half := Nat.mul_le_mul_right number.denominator one_le
  unfold quotientHalfUp
  refine Nat.div_le_of_le_mul ?_
  calc 2 * number.numerator + number.denominator
      ≤ 3 * (10 ^ (size + 1) * number.denominator) := by omega
    _ ≤ 2 * 10 * (10 ^ (size + 1) * number.denominator) := Nat.mul_le_mul_right _ (by decide)
    _ = 2 * number.denominator * 10 ^ (size + 2) := by ring

theorem within_round (within : number.Within size) (short : size + 2 ≤ 200) :
    number.round.Within (size + 2) := by
  unfold round
  split
  · exact within.mono (Nat.le_add_right size 2)
  · obtain ⟨whole, found, within_whole, -⟩ := within_ofNat? within.quotientHalfUp_le short
    have rounded : ofQuotient? number.negative
        (quotientHalfUp number.numerator number.denominator) 1 = some whole := by
      rw [within.unsigned]
      exact found
    rw [rounded]
    exact within_whole

end Binary64

/-! ### Decimals -/

namespace Decimal

open Binary64 (Within within_ofNat? within_powerOfTen? within_add? within_mul? within_div?
  within_round)

theorem within_fractionalMagnitude? {coefficient scale : Nat} (small : coefficient < limit)
    (short : scale ≤ maxScale) :
    ∃ number, fractionalMagnitude? coefficient scale = some number ∧ number.Within 123 := by
  have digits : limit ≤ 10 ^ 29 := by decide
  have places : maxScale = 28 := rfl
  have fits {count : Nat} (less : count ≤ coefficient) : count ≤ 10 ^ 29 := by omega
  obtain ⟨ten, ten_found, ten_exact, some_ten⟩ := within_powerOfTen? (by omega : scale ≤ 200)
  have ten_within : ten.Within 28 := ten_exact.mono short
  obtain ⟨whole, whole_found, whole_within, -⟩ :=
    within_ofNat? (fits (Nat.div_le_self _ (10 ^ scale))) (by decide)
  obtain ⟨rest, rest_found, rest_within, -⟩ :=
    within_ofNat? (fits (Nat.mod_le _ (10 ^ scale))) (by decide)
  obtain ⟨fraction, divided, fraction_within⟩ := within_div? rest_within ten_within some_ten (by decide)
  obtain ⟨sum, added, sum_within⟩ :=
    within_add? (whole_within.mono (by decide)) fraction_within (by decide)
  obtain ⟨product, multiplied, product_within⟩ := within_mul? sum_within ten_within (by decide)
  obtain ⟨quotient, rounded, quotient_within⟩ :=
    within_div? (within_round product_within (by decide)) ten_within some_ten (by decide)
  unfold fractionalMagnitude?
  simp only [Nat.pow_eq, ten_found, whole_found, rest_found, divided, added, multiplied, rounded,
    Option.bind_eq_bind, Option.bind_some]
  split
  · exact ⟨whole, rfl, whole_within.mono (by decide)⟩
  · exact ⟨quotient, rfl, quotient_within⟩

/-- **The double of a decimal** is zero or of moderate size. -/
theorem within_toBinary64 (decimal : Decimal) : decimal.toBinary64.magnitude.Within 123 := by
  obtain ⟨number, found, within⟩ : ∃ number, (if decimal.scale = 0
      then Binary64.ofNat? decimal.coefficient
      else fractionalMagnitude? decimal.coefficient decimal.scale) = some number
        ∧ number.Within 123 := by
    split
    · have digits : limit ≤ 10 ^ 123 := by decide
      obtain ⟨number, found, within, -⟩ :=
        within_ofNat? (decimal.coefficient_lt.le.trans digits) (by decide)
      exact ⟨number, found, within⟩
    · exact within_fractionalMagnitude? decimal.coefficient_lt decimal.scale_le
  have unsigned : number.magnitude = number := by
    unfold Binary64.magnitude
    rw [← within.unsigned]
  have same : decimal.toBinary64.magnitude = number := by
    unfold toBinary64
    simp only [found]
    split
    · exact unsigned
    · exact unsigned
  rwa [same]

end Decimal

end Paydesk
