/-
**The double nearest to a fraction.**

A fraction above zero has a mantissa of 53 bits at one exponent only. There it is rounded to a whole
mantissa, so the double lies within half a unit of the fraction, on an even mantissa where the
fraction is midway.

* `quotientHalfEven_near`, `quotientHalfEven_congr`: rounding a quotient;
* `Binary64.value`: the magnitude of a double;
* `Binary64.leadingExponent_spec`: **the exponent of a fraction**;
* `Binary64.Rounds`: a double with 53 bits that a fraction rounds to;
* `Binary64.rounds_ofQuotient?`: **the double of a fraction is one that it rounds to**;
* `Binary64.ofQuotient?_congr`: equal fractions have one double.
-/

import Mathlib.Algebra.Order.Field.Power
import Mathlib.Data.Rat.Cast.Order
import Mathlib.Tactic.FieldSimp
import Mathlib.Tactic.Linarith
import Mathlib.Tactic.Positivity
import Mathlib.Tactic.Ring
import Paydesk.Binary64.Shortest

namespace Paydesk

/-! ### Rounded quotients -/

/-- The nearest whole number is within a half, and even where it is off by a half. -/
theorem quotientHalfEven_spec (num : Nat) {den : Nat} (positive : 0 < den) :
    2 * num ≤ 2 * (quotientHalfEven num den * den) + den
      ∧ 2 * (quotientHalfEven num den * den) ≤ 2 * num + den
      ∧ (quotientHalfEven num den % 2 = 1 →
        2 * num ≠ 2 * (quotientHalfEven num den * den) + den
          ∧ 2 * (quotientHalfEven num den * den) ≠ 2 * num + den) := by
  have parts := Nat.div_add_mod' num den
  have small := Nat.mod_lt num positive
  unfold quotientHalfEven
  simp only
  split
  · omega
  · split
    · rw [Nat.add_mul, Nat.one_mul]
      omega
    · rcases Nat.mod_two_eq_zero_or_one (num / den) with even | odd
      · rw [even, Nat.add_zero]
        omega
      · rw [odd, Nat.add_mul, Nat.one_mul]
        omega

theorem quotientHalfEven_mul (num den : Nat) {factor : Nat} (positive : 0 < factor) :
    quotientHalfEven (num * factor) (den * factor) = quotientHalfEven num den := by
  have doubled (remainder : Nat) : 2 * (remainder * factor) = 2 * remainder * factor := by ring
  unfold quotientHalfEven
  simp only [Nat.mul_div_mul_right _ _ positive, Nat.mul_mod_mul_right, doubled,
    Nat.mul_lt_mul_right positive]

/-- Equal fractions are rounded alike. -/
theorem quotientHalfEven_congr {num den other divisor : Nat} (positive : 0 < den)
    (positive_other : 0 < divisor) (same : num * divisor = other * den) :
    quotientHalfEven num den = quotientHalfEven other divisor := by
  rw [← quotientHalfEven_mul num den positive_other, same, Nat.mul_comm den divisor,
    quotientHalfEven_mul other divisor positive]

/-- A quotient and its nearest whole number, as fractions. -/
theorem quotientHalfEven_near (num : Nat) {den : Nat} (positive : 0 < den) :
    2 * ((num : ℚ) / den) ≤ 2 * quotientHalfEven num den + 1
      ∧ 2 * (quotientHalfEven num den : ℚ) ≤ 2 * ((num : ℚ) / den) + 1
      ∧ (quotientHalfEven num den % 2 = 1 →
        2 * ((num : ℚ) / den) ≠ 2 * quotientHalfEven num den + 1
          ∧ 2 * (quotientHalfEven num den : ℚ) ≠ 2 * ((num : ℚ) / den) + 1) := by
  have den_pos : (0 : ℚ) < den := by exact_mod_cast positive
  have whole : (num : ℚ) / den * den = num := div_mul_cancel₀ _ den_pos.ne'
  obtain ⟨upper, lower, apart⟩ := quotientHalfEven_spec num positive
  generalize quotientHalfEven num den = quotient at *
  generalize (num : ℚ) / den = exact at *
  have scaled_upper : ((2 * num : ℕ) : ℚ) = 2 * exact * den
      ∧ ((2 * (quotient * den) + den : ℕ) : ℚ) = (2 * quotient + 1) * den := by
    push_cast
    rw [← whole]
    exact ⟨by ring, by ring⟩
  have scaled_lower : ((2 * (quotient * den) : ℕ) : ℚ) = 2 * quotient * den
      ∧ ((2 * num + den : ℕ) : ℚ) = (2 * exact + 1) * den := by
    push_cast
    rw [← whole]
    exact ⟨by ring, by ring⟩
  refine ⟨?_, ?_, fun odd => ⟨fun tie => ?_, fun tie => ?_⟩⟩
  · refine le_of_mul_le_mul_right ?_ den_pos
    rw [← scaled_upper.1, ← scaled_upper.2]
    exact_mod_cast upper
  · refine le_of_mul_le_mul_right ?_ den_pos
    rw [← scaled_lower.1, ← scaled_lower.2]
    exact_mod_cast lower
  · refine (apart odd).1 (Nat.cast_injective (R := ℚ) ?_)
    rw [scaled_upper.1, scaled_upper.2, tie]
  · refine (apart odd).2 (Nat.cast_injective (R := ℚ) ?_)
    rw [scaled_lower.1, scaled_lower.2, tie]

/-! ### Powers -/

/-- A power with an exponent of either sign, as a numerator or as a denominator. -/
theorem pow_toNat_div (base : ℚ) (exponent : ℤ) :
    base ^ exponent.toNat / base ^ (-exponent).toNat = base ^ exponent := by
  rcases Int.le_total 0 exponent with positive | negative
  · obtain ⟨power, rfl⟩ := Int.eq_ofNat_of_zero_le positive
    simp
  · obtain ⟨power, same⟩ := Int.eq_ofNat_of_zero_le (Int.neg_nonneg_of_nonpos negative)
    have exponent_eq : exponent = -(power : ℤ) := by omega
    subst exponent_eq
    simp

namespace Binary64

/-- The magnitude of a double. -/
def value (number : Binary64) : ℚ := number.mantissa * 2 ^ number.exponent

theorem value_eq_div (number : Binary64) :
    number.value = (number.numerator : ℚ) / number.denominator := by
  have powers := pow_toNat_div 2 number.exponent
  unfold value numerator denominator
  rw [← powers]
  push_cast [Nat.pow_eq]
  ring

theorem denominator_pos (number : Binary64) : 0 < number.denominator := Nat.pow_pos (by decide)

/-! ### The exponent of a fraction -/

section Exponent

variable {num den : Nat} (some_num : 0 < num) (some_den : 0 < den)

include some_num some_den

theorem log2_bounds : (2 : ℚ) ^ ((num.log2 : ℤ) - den.log2 - 1) < (num : ℚ) / den
    ∧ (num : ℚ) / den < 2 ^ ((num.log2 : ℤ) - den.log2 + 1) := by
  have least : (2 : ℚ) ^ num.log2 ≤ num := by
    exact_mod_cast Nat.log2_self_le some_num.ne'
  have most : (num : ℚ) < 2 ^ (num.log2 + 1) := by exact_mod_cast Nat.lt_log2_self
  have least_den : (2 : ℚ) ^ den.log2 ≤ den := by
    exact_mod_cast Nat.log2_self_le some_den.ne'
  have most_den : (den : ℚ) < 2 ^ (den.log2 + 1) := by exact_mod_cast Nat.lt_log2_self
  have den_pos : (0 : ℚ) < den := by exact_mod_cast some_den
  constructor
  · rw [lt_div_iff₀ den_pos]
    calc (2 : ℚ) ^ ((num.log2 : ℤ) - den.log2 - 1) * den
        < 2 ^ ((num.log2 : ℤ) - den.log2 - 1) * 2 ^ (den.log2 + 1) := by gcongr
      _ = 2 ^ num.log2 := by
        rw [← zpow_natCast, ← zpow_natCast, ← zpow_add₀ two_ne_zero]
        congr 1
        push_cast
        ring
      _ ≤ num := least
  · rw [div_lt_iff₀ den_pos]
    calc (num : ℚ) < 2 ^ (num.log2 + 1) := most
      _ = 2 ^ ((num.log2 : ℤ) - den.log2 + 1) * 2 ^ den.log2 := by
        rw [← zpow_natCast, ← zpow_natCast, ← zpow_add₀ two_ne_zero]
        congr 1
        push_cast
        ring
      _ ≤ 2 ^ ((num.log2 : ℤ) - den.log2 + 1) * den := by gcongr

/-- **A fraction has a mantissa of 53 bits at its exponent.** -/
theorem leadingExponent_spec :
    (2 : ℚ) ^ 52 * 2 ^ leadingExponent 53 num den ≤ (num : ℚ) / den
      ∧ (num : ℚ) / den < 2 ^ 53 * 2 ^ leadingExponent 53 num den := by
  obtain ⟨lower, upper⟩ := log2_bounds some_num some_den
  let guess : ℤ := (num.log2 : ℤ) - den.log2 - 52
  have joined (bits : Nat) (exponent : ℤ) : (2 : ℚ) ^ bits * 2 ^ exponent = 2 ^ (exponent + bits) := by
    rw [← zpow_natCast, ← zpow_add₀ two_ne_zero, add_comm]
  have enough_iff : den * Nat.pow 2 guess.toNat * Nat.pow 2 52 ≤ num * Nat.pow 2 (-guess).toNat
      ↔ (2 : ℚ) ^ 52 * 2 ^ guess ≤ (num : ℚ) / den := by
    have den_pos : (0 : ℚ) < den := by exact_mod_cast some_den
    have tenth_pos : (0 : ℚ) < 2 ^ (-guess).toNat := by positivity
    rw [← pow_toNat_div 2 guess, mul_div_assoc', div_le_div_iff₀ tenth_pos den_pos,
      ← Nat.cast_le (α := ℚ)]
    push_cast [Nat.pow_eq]
    rw [mul_comm ((den : ℚ) * _), mul_comm (den : ℚ), ← mul_assoc]
    norm_num
  have leading : leadingExponent 53 num den
      = if den * Nat.pow 2 guess.toNat * Nat.pow 2 52 ≤ num * Nat.pow 2 (-guess).toNat then guess
        else guess - 1 := rfl
  rw [leading]
  split
  · rename_i enough
    refine ⟨enough_iff.mp enough, ?_⟩
    rw [joined]
    refine upper.trans_le (le_of_eq ?_)
    congr 1
    simp only [guess]
    push_cast
    ring
  · rename_i short
    have below := not_le.mp (enough_iff.not.mp short)
    rw [joined] at below ⊢
    rw [joined]
    constructor
    · refine le_of_eq_of_le ?_ lower.le
      congr 1
      simp only [guess]
      push_cast
      ring
    · refine below.trans_le (le_of_eq ?_)
      congr 1
      push_cast
      ring

omit some_num in
/-- The mantissa of a fraction is its nearest whole number of units. -/
theorem mantissaAt_spec (exponent : ℤ) {units : ℚ} (scaled : units * 2 ^ exponent = (num : ℚ) / den) :
    2 * units ≤ 2 * mantissaAt num den exponent + 1
      ∧ 2 * (mantissaAt num den exponent : ℚ) ≤ 2 * units + 1
      ∧ (mantissaAt num den exponent % 2 = 1 →
        2 * units ≠ 2 * mantissaAt num den exponent + 1
          ∧ 2 * (mantissaAt num den exponent : ℚ) ≠ 2 * units + 1) := by
  have positive : 0 < den * Nat.pow 2 exponent.toNat :=
    Nat.mul_pos some_den (Nat.pow_pos (by decide))
  have units_eq : ((num * Nat.pow 2 (-exponent).toNat : ℕ) : ℚ)
      / ((den * Nat.pow 2 exponent.toNat : ℕ) : ℚ) = units := by
    have den_pos : (0 : ℚ) < den := by exact_mod_cast some_den
    have num_eq : (num : ℚ) = units * 2 ^ exponent * den := by
      rw [scaled, div_mul_cancel₀ _ den_pos.ne']
    push_cast [Nat.pow_eq]
    rw [num_eq, ← pow_toNat_div 2 exponent]
    field_simp
  have near := quotientHalfEven_near (num * Nat.pow 2 (-exponent).toNat) positive
  rw [units_eq] at near
  exact near

end Exponent

/-! ### The interval of a double -/

/-- A number lies in an interval, on its ends only if they belong to it. -/
structure Interval.Contains (interval : Interval) (number : ℚ) : Prop where
  lower : (interval.lower : ℚ) ≤ number * interval.denominator
  upper : number * interval.denominator ≤ interval.upper
  inside : interval.closed = false → (interval.lower : ℚ) ≠ number * interval.denominator
    ∧ number * interval.denominator ≠ interval.upper

/-- How many quarters of a unit the interval of a double reaches down. -/
def reach (number : Binary64) : Nat :=
  if number.mantissa == Nat.pow 2 52 && decide (minExponent < number.exponent) then 1 else 2

theorem reach_cases (number : Binary64) :
    (number.mantissa = 2 ^ 52 ∧ number.reach = 1) ∨ number.reach = 2 := by
  unfold reach
  split
  · rename_i narrow
    rw [Bool.and_eq_true, beq_iff_eq] at narrow
    exact Or.inl ⟨narrow.1, rfl⟩
  · exact Or.inr rfl

theorem reach_le (number : Binary64) : number.reach ≤ 2 := by
  rcases number.reach_cases with ⟨-, one⟩ | two <;> omega

section Quarters

variable {number : Binary64} {x units : ℚ} (some_mantissa : 0 < number.mantissa)
  (scaled : units * 2 ^ number.exponent = x)

include some_mantissa in
theorem interval_lower : (number.interval.lower : ℚ)
    = (4 * number.mantissa - number.reach) * 2 ^ number.exponent.toNat := by
  have reach_le : number.reach ≤ 4 * number.mantissa := by
    have two := number.reach_le
    omega
  change (((4 * number.mantissa - number.reach) * Nat.pow 2 number.exponent.toNat : ℕ) : ℚ) = _
  rw [Nat.cast_mul, Nat.cast_sub reach_le]
  push_cast [Nat.pow_eq]
  ring

theorem interval_upper : (number.interval.upper : ℚ)
    = (4 * number.mantissa + 2) * 2 ^ number.exponent.toNat := by
  change (((4 * number.mantissa + 2) * Nat.pow 2 number.exponent.toNat : ℕ) : ℚ) = _
  push_cast [Nat.pow_eq]
  ring

include scaled in
theorem mul_interval_denominator :
    x * number.interval.denominator = 4 * units * 2 ^ number.exponent.toNat := by
  have powers := pow_toNat_div 2 number.exponent
  change x * ((4 * Nat.pow 2 (-number.exponent).toNat : ℕ) : ℚ) = _
  rw [← scaled, ← powers]
  push_cast [Nat.pow_eq]
  field_simp

include some_mantissa scaled

/-- The interval of a double, in quarters of a unit. -/
theorem contains_interval (lower : 4 * (number.mantissa : ℚ) - number.reach ≤ 4 * units)
    (upper : 4 * units ≤ 4 * number.mantissa + 2)
    (inside : number.mantissa % 2 = 1 → 4 * (number.mantissa : ℚ) - number.reach ≠ 4 * units
      ∧ 4 * units ≠ 4 * number.mantissa + 2) : number.interval.Contains x := by
  have scale_pos : (0 : ℚ) < 2 ^ number.exponent.toNat := by positivity
  have number_eq := mul_interval_denominator scaled
  refine ⟨?_, ?_, fun opened => ?_⟩
  · rw [interval_lower some_mantissa, number_eq]
    gcongr
  · rw [interval_upper, number_eq]
    gcongr
  · have odd : number.mantissa % 2 = 1 := by
      have not_even : (number.mantissa % 2 == 0) = false := opened
      rw [beq_eq_false_iff_ne] at not_even
      omega
    rw [interval_lower some_mantissa, interval_upper, number_eq]
    exact ⟨fun tie => (inside odd).1 (mul_right_cancel₀ scale_pos.ne' tie),
      fun tie => (inside odd).2 (mul_right_cancel₀ scale_pos.ne' tie)⟩

/-- The numbers in the interval of a double lie within half a unit of it. -/
theorem Interval.Contains.bounds (contains : number.interval.Contains x) :
    4 * (number.mantissa : ℚ) - number.reach ≤ 4 * units
      ∧ 4 * units ≤ 4 * number.mantissa + 2 := by
  have scale_pos : (0 : ℚ) < 2 ^ number.exponent.toNat := by positivity
  have lower := contains.lower
  have upper := contains.upper
  rw [interval_lower some_mantissa, mul_interval_denominator scaled] at lower
  rw [interval_upper, mul_interval_denominator scaled] at upper
  exact ⟨le_of_mul_le_mul_right lower scale_pos, le_of_mul_le_mul_right upper scale_pos⟩

end Quarters

/-- A double with a mantissa of 53 bits, and units to spare, that a number rounds to. -/
structure Rounds (number : Binary64) (x : ℚ) : Prop where
  normal : minExponent < number.exponent
  least : 2 ^ 52 ≤ number.mantissa
  most : number.mantissa < 2 ^ 53
  contains : number.interval.Contains x

/-- Numbers far from the ends of what doubles can hold. -/
structure InRange (x : ℚ) : Prop where
  least : (2 : ℚ) ^ (-900 : ℤ) ≤ x
  most : x ≤ 2 ^ (900 : ℤ)

theorem InRange.pos {x : ℚ} (range : InRange x) : 0 < x :=
  lt_of_lt_of_le (zpow_pos two_pos _) range.least

section Nearest

variable {num den : Nat} (some_den : 0 < den) (range : InRange ((num : ℚ) / den))

include range in
theorem num_pos : 0 < num := by
  rcases Nat.eq_zero_or_pos num with nothing | some_num
  · have zero := range.pos
    rw [nothing] at zero
    simp at zero
  · exact some_num

include some_den range

theorem leadingExponent_bounds :
    -953 < leadingExponent 53 num den ∧ leadingExponent 53 num den ≤ 848 := by
  obtain ⟨lower, upper⟩ := leadingExponent_spec (num_pos range) some_den
  have least := range.least.trans_lt upper
  have most := lower.trans range.most
  rw [← zpow_natCast, ← zpow_add₀ two_ne_zero] at least most
  have above := (zpow_lt_zpow_iff_right₀ one_lt_two).mp least
  have below := (zpow_le_zpow_iff_right₀ one_lt_two).mp most
  push_cast at above below
  omega

theorem exponentOf_eq : exponentOf num den = leadingExponent 53 num den := by
  obtain ⟨above, -⟩ := leadingExponent_bounds some_den range
  exact max_eq_right (by unfold minExponent; omega)

/-- The exact mantissa of a fraction has 53 bits, so the rounded one has as many or is `2 ^ 53`. -/
theorem exists_units : ∃ units : ℚ,
    units * 2 ^ exponentOf num den = (num : ℚ) / den ∧ (2 : ℚ) ^ 52 ≤ units
      ∧ 2 ^ 52 ≤ mantissaAt num den (exponentOf num den)
      ∧ mantissaAt num den (exponentOf num den) ≤ 2 ^ 53 := by
  have some_num := num_pos range
  obtain ⟨lower, upper⟩ := leadingExponent_spec some_num some_den
  rw [exponentOf_eq some_den range]
  generalize leadingExponent 53 num den = exponent at *
  have unit_pos : (0 : ℚ) < 2 ^ exponent := zpow_pos two_pos _
  let units : ℚ := (num : ℚ) / den / 2 ^ exponent
  have scaled : units * 2 ^ exponent = (num : ℚ) / den := div_mul_cancel₀ _ unit_pos.ne'
  have units_least : (2 : ℚ) ^ 52 ≤ units := (le_div_iff₀ unit_pos).mpr lower
  have units_most : units < 2 ^ 53 := (div_lt_iff₀ unit_pos).mpr upper
  obtain ⟨above, below, -⟩ := mantissaAt_spec some_den exponent scaled
  refine ⟨units, scaled, units_least, ?_, ?_⟩
  · have bound : (2 : ℚ) * 2 ^ 52 < 2 * mantissaAt num den exponent + 2 := by linarith
    have bound_nat : 2 * 2 ^ 52 < 2 * mantissaAt num den exponent + 2 := by exact_mod_cast bound
    omega
  · have bound : (2 : ℚ) * mantissaAt num den exponent < 2 * 2 ^ 53 + 1 := by linarith
    have bound_nat : 2 * mantissaAt num den exponent < 2 * 2 ^ 53 + 1 := by exact_mod_cast bound
    omega

/-- A fraction lies in the interval of the double of its rounded mantissa. -/
theorem contains_of_lt (negative : Bool) :
    Interval.Contains
      (interval ⟨negative, mantissaAt num den (exponentOf num den), exponentOf num den⟩)
      ((num : ℚ) / den) := by
  obtain ⟨units, scaled, units_least, least, -⟩ := exists_units some_den range
  obtain ⟨above, below, apart⟩ := mantissaAt_spec some_den _ scaled
  let number : Binary64 := ⟨negative, mantissaAt num den (exponentOf num den), exponentOf num den⟩
  refine contains_interval (show 0 < number.mantissa by simp only [number]; omega) scaled ?_ ?_
    fun odd => ?_
  · rcases number.reach_cases with ⟨power, one⟩ | two
    · rw [one, power]
      push_cast
      linarith
    · rw [two]
      push_cast
      linarith
  · linarith
  · obtain ⟨not_upper, not_lower⟩ := apart odd
    have two : number.reach = 2 := by
      rcases number.reach_cases with ⟨power, -⟩ | two
      · exact absurd (power ▸ odd) (by decide)
      · exact two
    rw [two]
    exact ⟨fun tie => not_lower (by push_cast at tie; linarith), fun tie => not_upper (by linarith)⟩

/-- A fraction whose mantissa is rounded up to `2 ^ 53` lies in the interval of a power of two,
whose unit is twice as wide. -/
theorem contains_of_carry (carry : mantissaAt num den (exponentOf num den) = 2 ^ 53)
    (normal : minExponent < exponentOf num den + 1) (negative : Bool) :
    (⟨negative, 2 ^ 52, exponentOf num den + 1⟩ : Binary64).interval.Contains ((num : ℚ) / den) := by
  obtain ⟨units, scaled, units_least, -, -⟩ := exists_units some_den range
  obtain ⟨above, below, -⟩ := mantissaAt_spec some_den _ scaled
  let number : Binary64 := ⟨negative, 2 ^ 52, exponentOf num den + 1⟩
  have scaled_above : units / 2 * 2 ^ number.exponent = (num : ℚ) / den := by
    rw [← scaled, zpow_add_one₀ two_ne_zero]
    ring
  have narrow : number.reach = 1 := if_pos (by simp only [number, normal]; rfl)
  rw [carry] at above below
  push_cast at above below
  refine contains_interval (Nat.pow_pos (by decide)) scaled_above ?_ ?_ fun odd => ?_
  · rw [narrow]
    push_cast [number]
    linarith
  · push_cast [number]
    linarith
  · exact absurd odd (by decide : ¬2 ^ 52 % 2 = 1)

/-- **The double of a fraction is one that the fraction rounds to.** -/
theorem rounds_ofQuotient? (negative : Bool) :
    ∃ number, ofQuotient? negative num den = some number ∧ number.negative = negative
      ∧ number.Rounds ((num : ℚ) / den) := by
  have some_num := num_pos range
  have not_zero : ¬(num = 0 ∨ den = 0) := by omega
  obtain ⟨-, -, -, least, most⟩ := exists_units some_den range
  obtain ⟨normal, small, small_above⟩ : minExponent < exponentOf num den
      ∧ exponentOf num den ≤ maxExponent ∧ exponentOf num den + 1 ≤ maxExponent := by
    have bounds := leadingExponent_bounds some_den range
    rw [exponentOf_eq some_den range]
    unfold minExponent maxExponent
    omega
  rcases Nat.lt_or_ge (mantissaAt num den (exponentOf num den)) (2 ^ 53) with short | carry
  · have some_mantissa : mantissaAt num den (exponentOf num den) ≠ 0 := by omega
    refine ⟨⟨negative, mantissaAt num den (exponentOf num den), exponentOf num den⟩, ?_, rfl,
      normal, least, short, contains_of_lt some_den range negative⟩
    unfold ofQuotient?
    simp only [Nat.pow_eq, short, not_zero, some_mantissa, small, if_true, if_false]
  · have normal_above : minExponent < exponentOf num den + 1 := by omega
    refine ⟨⟨negative, 2 ^ 52, exponentOf num den + 1⟩, ?_, rfl, normal_above, Nat.le_refl _,
      Nat.pow_lt_pow_right (by decide) (by decide),
      contains_of_carry some_den range (by omega) normal_above negative⟩
    unfold ofQuotient?
    simp only [Nat.pow_eq, Nat.not_lt.mpr carry, not_zero, small_above, if_true, if_false]
    rfl

/-- **Equal fractions have one double.** -/
theorem ofQuotient?_congr {other divisor : Nat} (some_divisor : 0 < divisor)
    (same : num * divisor = other * den) (negative : Bool) :
    ofQuotient? negative num den = ofQuotient? negative other divisor := by
  have den_pos : (0 : ℚ) < den := by exact_mod_cast some_den
  have divisor_pos : (0 : ℚ) < divisor := by exact_mod_cast some_divisor
  have equal : (num : ℚ) / den = (other : ℚ) / divisor := by
    rw [div_eq_div_iff den_pos.ne' divisor_pos.ne']
    exact_mod_cast same
  have range_other : InRange ((other : ℚ) / divisor) := equal ▸ range
  have some_num := num_pos range
  have some_other := num_pos range_other
  have leading : leadingExponent 53 num den = leadingExponent 53 other divisor := by
    obtain ⟨lower, upper⟩ := leadingExponent_spec some_num some_den
    obtain ⟨lower_other, upper_other⟩ := leadingExponent_spec some_other some_divisor
    have below := lower.trans_lt (equal ▸ upper_other)
    have above := lower_other.trans_lt (equal ▸ upper)
    rw [← zpow_natCast, ← zpow_natCast, ← zpow_add₀ two_ne_zero, ← zpow_add₀ two_ne_zero,
      zpow_lt_zpow_iff_right₀ one_lt_two] at below above
    push_cast at below above
    omega
  have exponent := exponentOf_eq some_den range
  have exponent_other := exponentOf_eq some_divisor range_other
  have mantissa (power : ℤ) : mantissaAt num den power = mantissaAt other divisor power := by
    have one : 0 < den * Nat.pow 2 power.toNat := Nat.mul_pos some_den (Nat.pow_pos (by decide))
    have two : 0 < divisor * Nat.pow 2 power.toNat :=
      Nat.mul_pos some_divisor (Nat.pow_pos (by decide))
    refine quotientHalfEven_congr one two ?_
    calc num * Nat.pow 2 (-power).toNat * (divisor * Nat.pow 2 power.toNat)
        = num * divisor * (Nat.pow 2 (-power).toNat * Nat.pow 2 power.toNat) := by ring
      _ = other * Nat.pow 2 (-power).toNat * (den * Nat.pow 2 power.toNat) := by rw [same]; ring
  have not_zero : ¬(num = 0 ∨ den = 0) := by omega
  have not_zero_other : ¬(other = 0 ∨ divisor = 0) := by omega
  unfold ofQuotient?
  simp only [exponent, exponent_other, leading, mantissa, not_zero, not_zero_other]

end Nearest

/-! ### How near the double is -/

namespace Rounds

variable {number : Binary64} {x : ℚ}

theorem mantissa_pos (rounds : number.Rounds x) : 0 < number.mantissa := by
  have least := rounds.least
  omega

/-- Where a number lies, in units of the double that it rounds to. -/
theorem units (rounds : number.Rounds x) : ∃ units : ℚ, units * 2 ^ number.exponent = x
    ∧ 4 * (number.mantissa : ℚ) - number.reach ≤ 4 * units
    ∧ 4 * units ≤ 4 * number.mantissa + 2 := by
  have unit_pos : (0 : ℚ) < 2 ^ number.exponent := zpow_pos two_pos _
  have scaled : x / 2 ^ number.exponent * 2 ^ number.exponent = x :=
    div_mul_cancel₀ _ unit_pos.ne'
  exact ⟨_, scaled, rounds.contains.bounds rounds.mantissa_pos scaled⟩

theorem pos (rounds : number.Rounds x) : 0 < x := by
  obtain ⟨units, scaled, lower, -⟩ := rounds.units
  have least : (2 : ℚ) ^ 52 ≤ number.mantissa := by exact_mod_cast rounds.least
  have reach_le : (number.reach : ℚ) ≤ 2 := by exact_mod_cast number.reach_le
  have units_pos : 0 < units := by linarith
  rw [← scaled]
  positivity

/-- Below a power of two the units are half as wide. -/
theorem reach_eq_one (rounds : number.Rounds x) (power : number.mantissa = 2 ^ 52) :
    number.reach = 1 := by
  refine if_pos ?_
  rw [Bool.and_eq_true, beq_iff_eq, decide_eq_true_iff]
  exact ⟨power, rounds.normal⟩

/-- **A double is off from what it stands for by at most one part in `2 ^ 53`.** -/
theorem error_le (rounds : number.Rounds x) : |number.value - x| ≤ x / 2 ^ 53 := by
  obtain ⟨units, scaled, lower, upper⟩ := rounds.units
  have unit_pos : (0 : ℚ) < 2 ^ number.exponent := zpow_pos two_pos _
  have least : (2 : ℚ) ^ 52 ≤ number.mantissa := by exact_mod_cast rounds.least
  have near : |(number.mantissa : ℚ) - units| ≤ units / 2 ^ 53 := by
    have least_reach : (number.reach : ℚ) * 2 ^ 51 + number.reach / 4 ≤ number.mantissa := by
      rcases number.reach_cases with ⟨power, one⟩ | two
      · rw [one, power]
        norm_num
      · have other : 2 ^ 52 + 1 ≤ number.mantissa := by
          refine Nat.succ_le_of_lt (lt_of_le_of_ne rounds.least fun power => ?_)
          have one := rounds.reach_eq_one power.symm
          omega
        have other_rat : (2 : ℚ) ^ 52 + 1 ≤ number.mantissa := by exact_mod_cast other
        rw [two]
        push_cast
        linarith
    have reach_nonneg : (0 : ℚ) ≤ number.reach := Nat.cast_nonneg _
    have positive : (0 : ℚ) < 2 ^ 53 := by positivity
    rw [abs_le, neg_le, le_div_iff₀ positive, le_div_iff₀ positive]
    constructor <;> linarith
  calc |number.value - x| = |(number.mantissa : ℚ) - units| * 2 ^ number.exponent := by
        rw [value, ← scaled, ← sub_mul, abs_mul, abs_of_pos unit_pos]
    _ ≤ units / 2 ^ 53 * 2 ^ number.exponent := by gcongr
    _ = x / 2 ^ 53 := by rw [← scaled]; ring

section Exact

variable {count : Nat} {power : ℤ} (exact : number.Rounds (count * 2 ^ power)) (small : count < 2 ^ 53)

include exact small

/-- What has at most 53 bits has a double with units no wider than its own: of wider ones it has so
few that the mantissa is the least, whose interval is narrow below. -/
theorem exponent_le : number.exponent ≤ power := by
  by_contra finer
  obtain ⟨units, scaled, lower, -⟩ := exact.units
  obtain ⟨more, exponent_eq⟩ := Int.eq_ofNat_of_zero_le (show 0 ≤ number.exponent - power - 1 by omega)
  have power_pos : (0 : ℚ) < 2 ^ power := zpow_pos two_pos _
  have split : (2 : ℚ) ^ number.exponent = 2 ^ more * 2 * 2 ^ power := by
    rw [← zpow_natCast, ← zpow_add_one₀ two_ne_zero, ← zpow_add₀ two_ne_zero]
    congr 1
    omega
  have units_eq : units * 2 ^ more * 2 = count := by
    refine mul_right_cancel₀ power_pos.ne' ?_
    rw [← scaled, split]
    ring
  have least : (2 : ℚ) ^ 52 ≤ number.mantissa := by exact_mod_cast exact.least
  have reach_le : (number.reach : ℚ) ≤ 2 := by exact_mod_cast number.reach_le
  have units_pos : 0 ≤ units := by linarith
  have most : (count : ℚ) + 1 ≤ 2 ^ 53 := by exact_mod_cast small
  have units_le : units * 2 ≤ count := by
    rw [← units_eq]
    gcongr
    exact le_mul_of_one_le_right units_pos (one_le_pow₀ one_le_two)
  have mantissa_le : (number.mantissa : ℚ) ≤ 2 ^ 52 := by linarith
  have power_eq : number.mantissa = 2 ^ 52 :=
    le_antisymm (by exact_mod_cast mantissa_le) exact.least
  rw [exact.reach_eq_one power_eq, power_eq] at lower
  push_cast at lower
  linarith

/-- **What has at most 53 bits has a double of its own value.** -/
theorem value_eq : number.value = count * 2 ^ power := by
  obtain ⟨units, scaled, lower, upper⟩ := exact.units
  have reach_le : (number.reach : ℚ) ≤ 2 := by exact_mod_cast number.reach_le
  have unit_pos : (0 : ℚ) < 2 ^ number.exponent := zpow_pos two_pos _
  have coarser := exact.exponent_le small
  obtain ⟨more, power_eq⟩ := Int.eq_ofNat_of_zero_le (show 0 ≤ power - number.exponent by omega)
  have split : (2 : ℚ) ^ power = 2 ^ more * 2 ^ number.exponent := by
    rw [← zpow_natCast, ← zpow_add₀ two_ne_zero]
    congr 1
    omega
  have units_eq : units = ((count * 2 ^ more : ℕ) : ℚ) := by
    refine mul_right_cancel₀ unit_pos.ne' ?_
    rw [scaled, split]
    push_cast
    ring
  have mantissa_eq : number.mantissa = count * 2 ^ more := by
    rw [units_eq] at lower upper
    have least : (4 : ℚ) * number.mantissa ≤ 4 * (count * 2 ^ more : ℕ) + 2 := by linarith
    have least_nat : 4 * number.mantissa ≤ 4 * (count * 2 ^ more) + 2 := by exact_mod_cast least
    have most_nat : 4 * (count * 2 ^ more) ≤ 4 * number.mantissa + 2 := by exact_mod_cast upper
    omega
  rw [value, mantissa_eq, split]
  push_cast
  ring

end Exact

end Rounds

end Binary64

end Paydesk
