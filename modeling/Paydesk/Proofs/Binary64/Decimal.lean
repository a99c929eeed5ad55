/-
**The double of a short decimal.**

The double that is written for a decimal comes out of four roundings. For a decimal of at most 15
digits and 22 places the power of ten is a double itself, and the errors made on the way to the
rounded product stay below a half: so that product is the coefficient, and the last quotient is
rounded once.

* `ofNat?_stands`, `powerOfTen?_stands`: whole numbers that are doubles;
* `add?_spec`, `mul?_spec`, `div?_spec`: the results of the operations, as fractions;
* `round_stands`: a double near a whole number is rounded to it;
* `Decimal.fractionalMagnitude?_eq`, `Decimal.isNearest_toBinary64`: **the double of a short decimal
  is the one nearest to it**.
-/

import Paydesk.Binary64.OfDecimal
import Paydesk.Proofs.Binary64.Rounding

namespace Paydesk

namespace Binary64

/-! ### Exact numbers -/

/-- A double without a sign is a number exactly. -/
structure Stands (number : Binary64) (x : ℚ) : Prop where
  unsigned : number.negative = false
  value_eq : number.value = x

theorem InRange.of_bounds {x : ℚ} (least : 1 / 10 ^ 200 ≤ x) (most : x ≤ 10 ^ 200) : InRange x := by
  have large : (10 : ℚ) ^ 200 ≤ 2 ^ 900 :=
    calc (10 : ℚ) ^ 200 = (10 ^ 2) ^ 100 := by rw [← pow_mul]
      _ ≤ (2 ^ 9) ^ 100 := pow_le_pow_left₀ (by norm_num) (by norm_num) _
      _ = 2 ^ 900 := by rw [← pow_mul]
  refine ⟨?_, most.trans large⟩
  calc (2 : ℚ) ^ (-900 : ℤ) = 1 / 2 ^ 900 := by rw [zpow_neg, one_div]; rfl
    _ ≤ 1 / 10 ^ 200 := one_div_le_one_div_of_le (by positivity) large
    _ ≤ x := least

/-- A double that a fraction rounds to. -/
theorem exists_rounds {num den : Nat} {x : ℚ} (some_den : 0 < den) (equal : (num : ℚ) / den = x)
    (range : InRange x) :
    ∃ number, ofQuotient? false num den = some number ∧ number.negative = false
      ∧ number.Rounds x := by
  subst equal
  exact rounds_ofQuotient? some_den range false

/-- Fractions of one value have one double. -/
theorem ofQuotient?_eq_of_div_eq {num den other divisor : Nat} {x : ℚ} (some_den : 0 < den)
    (some_divisor : 0 < divisor) (equal : (num : ℚ) / den = x)
    (equal_other : (other : ℚ) / divisor = x) (range : InRange x) (negative : Bool) :
    ofQuotient? negative num den = ofQuotient? negative other divisor := by
  have den_pos : (0 : ℚ) < den := by exact_mod_cast some_den
  have divisor_pos : (0 : ℚ) < divisor := by exact_mod_cast some_divisor
  refine ofQuotient?_congr some_den (equal ▸ range) some_divisor ?_ negative
  have same : (num : ℚ) / den = (other : ℚ) / divisor := equal.trans equal_other.symm
  rw [div_eq_div_iff den_pos.ne' divisor_pos.ne'] at same
  exact_mod_cast same

/-- **A whole number of at most 53 bits, and zeros after them, is a double.** -/
theorem ofNat?_stands {count power : Nat} (small : count < 2 ^ 53) (short : power ≤ 64) :
    ∃ number, ofNat? (count * 2 ^ power) = some number
      ∧ number.Stands ((count * 2 ^ power : ℕ) : ℚ) := by
  rcases Nat.eq_zero_or_pos count with rfl | some_count
  · refine ⟨zero false, ?_, rfl, ?_⟩
    · rw [Nat.zero_mul]
      rfl
    · simp [value, zero]
  · have least : 1 ≤ count * 2 ^ power := Nat.mul_pos some_count (Nat.pow_pos (by decide))
    have most : count * 2 ^ power ≤ 2 ^ 53 * 2 ^ 64 :=
      Nat.mul_le_mul small.le (Nat.pow_le_pow_right (by decide) short)
    have least_rat : (1 : ℚ) ≤ (count * 2 ^ power : ℕ) := by exact_mod_cast least
    have most_rat : ((count * 2 ^ power : ℕ) : ℚ) ≤ 2 ^ 53 * 2 ^ 64 := by exact_mod_cast most
    have range : InRange ((count * 2 ^ power : ℕ) : ℚ) :=
      .of_bounds (by linarith) (by linarith)
    have whole : ((count * 2 ^ power : ℕ) : ℚ) / (1 : ℕ) = (count * 2 ^ power : ℕ) := by
      rw [Nat.cast_one, div_one]
    obtain ⟨number, found, unsigned, rounds⟩ := exists_rounds Nat.one_pos whole range
    refine ⟨number, found, unsigned, ?_⟩
    have split : ((count * 2 ^ power : ℕ) : ℚ) = count * 2 ^ (power : ℤ) := by
      push_cast
      rw [zpow_natCast]
    rw [split] at rounds ⊢
    exact rounds.value_eq small

theorem ofNat?_stands_of_lt {count : Nat} (small : count < 2 ^ 53) :
    ∃ number, ofNat? count = some number ∧ number.Stands count := by
  have found := ofNat?_stands small (Nat.zero_le 64)
  rwa [Nat.pow_zero, Nat.mul_one] at found

theorem powerOfTen?_stands {power : Nat} (short : power ≤ 22) :
    ∃ ten, powerOfTen? power = some ten ∧ ten.Stands (10 ^ power) := by
  have small : 5 ^ power < 2 ^ 53 :=
    lt_of_le_of_lt (Nat.pow_le_pow_right (by decide) short) (by decide)
  obtain ⟨ten, found, stands⟩ := ofNat?_stands small (by omega : power ≤ 64)
  rw [← Nat.mul_pow] at found stands
  exact ⟨ten, found, by exact_mod_cast stands⟩

/-! ### Operations -/

section Operations

variable {first second : Binary64} (unsigned : first.negative = false)
  (unsigned_second : second.negative = false)

theorem signedNumerator_eq {number : Binary64} (unsigned : number.negative = false) :
    number.signedNumerator = number.numerator := by
  unfold signedNumerator
  rw [unsigned, if_neg Bool.false_ne_true]

include unsigned unsigned_second

theorem add?_spec : ∃ num den : Nat, 0 < den ∧ (num : ℚ) / den = first.value + second.value
    ∧ first.add? second = ofQuotient? false num den := by
  refine ⟨first.numerator * second.denominator + second.numerator * first.denominator,
    first.denominator * second.denominator, Nat.mul_pos first.denominator_pos second.denominator_pos,
    ?_, ?_⟩
  · have first_pos : (0 : ℚ) < first.denominator := by exact_mod_cast first.denominator_pos
    have second_pos : (0 : ℚ) < second.denominator := by exact_mod_cast second.denominator_pos
    rw [value_eq_div, value_eq_div]
    push_cast
    field_simp
  · have sum : (first.numerator : ℤ) * second.denominator + second.numerator * first.denominator
        = (first.numerator * second.denominator + second.numerator * first.denominator : ℕ) := by
      push_cast
      rfl
    have unsigned_sum : ¬((first.numerator * second.denominator
        + second.numerator * first.denominator : ℕ) : ℤ) < 0 := by omega
    unfold add?
    simp only [signedNumerator_eq unsigned, signedNumerator_eq unsigned_second, sum,
      Int.natAbs_natCast, unsigned_sum, decide_false]

theorem mul?_spec : ∃ num den : Nat, 0 < den ∧ (num : ℚ) / den = first.value * second.value
    ∧ first.mul? second = ofQuotient? false num den := by
  refine ⟨first.numerator * second.numerator, first.denominator * second.denominator,
    Nat.mul_pos first.denominator_pos second.denominator_pos, ?_, ?_⟩
  · rw [value_eq_div, value_eq_div]
    push_cast
    rw [div_mul_div_comm]
  · unfold mul?
    rw [unsigned, unsigned_second]
    rfl

theorem div?_spec (positive : 0 < second.value) :
    ∃ num den : Nat, 0 < den ∧ (num : ℚ) / den = first.value / second.value
      ∧ first.div? second = ofQuotient? false num den := by
  have some_divisor : 0 < second.numerator := by
    rw [value_eq_div] at positive
    rcases Nat.eq_zero_or_pos second.numerator with none | some_divisor
    · rw [none] at positive
      simp at positive
    · exact some_divisor
  refine ⟨first.numerator * second.denominator, first.denominator * second.numerator,
    Nat.mul_pos first.denominator_pos some_divisor, ?_, ?_⟩
  · rw [value_eq_div, value_eq_div]
    push_cast
    rw [div_div_div_eq]
  · unfold div?
    rw [unsigned, unsigned_second]
    rfl

theorem div?_eq_zero (nothing : first.value = 0) : first.div? second = some (zero false) := by
  have divisor_ne : (first.denominator : ℚ) ≠ 0 := by exact_mod_cast first.denominator_pos.ne'
  have numerator_eq : first.numerator = 0 := by
    rw [value_eq_div] at nothing
    exact_mod_cast (div_eq_zero_iff.mp nothing).resolve_right divisor_ne
  unfold div?
  rw [unsigned, unsigned_second, numerator_eq, Nat.zero_mul]
  exact if_pos (Or.inl rfl)

/-- A quotient of doubles is the double nearest to any fraction of its value. -/
theorem div?_eq_ofQuotient? (positive : 0 < second.value) {num den : Nat} (some_den : 0 < den)
    (equal : (num : ℚ) / den = first.value / second.value)
    (range : InRange (first.value / second.value)) :
    first.div? second = ofQuotient? false num den := by
  obtain ⟨other, divisor, some_divisor, equal_other, found⟩ :=
    div?_spec unsigned unsigned_second positive
  rw [found]
  exact ofQuotient?_eq_of_div_eq some_divisor some_den equal_other equal range false

end Operations

/-- A double without its sign. -/
def magnitude (number : Binary64) : Binary64 := { number with negative := false }

theorem signed_magnitude (number : Binary64) :
    (if number.negative then number.magnitude.neg else number.magnitude) = number := by
  obtain ⟨negative, mantissa, exponent⟩ := number
  cases negative <;> rfl

/-- A double is, but for its sign, the one nearest to a number. -/
structure IsNearest (number : Binary64) (x : ℚ) : Prop where
  rounds : number.Rounds x
  found : ∀ {num den : Nat}, 0 < den → (num : ℚ) / den = x →
    ofQuotient? false num den = some number.magnitude

/-- **A double near a whole number is rounded to it.** -/
theorem round_stands {number : Binary64} {count : Nat} (unsigned : number.negative = false)
    (near : |number.value - count| < 1 / 2) (small : count < 2 ^ 53) :
    number.round.Stands count := by
  have divisor_pos : (0 : ℚ) < number.denominator := by exact_mod_cast number.denominator_pos
  rw [abs_lt, value_eq_div] at near
  have lower : (count : ℚ) * (2 * number.denominator) < 2 * number.numerator + number.denominator := by
    have above : (count : ℚ) - 1 / 2 < number.numerator / number.denominator := by linarith
    rw [lt_div_iff₀ divisor_pos] at above
    linarith
  have upper : 2 * (number.numerator : ℚ) + number.denominator
      < (count + 1) * (2 * number.denominator) := by
    have below : (number.numerator : ℚ) / number.denominator < count + 1 / 2 := by linarith
    rw [div_lt_iff₀ divisor_pos] at below
    linarith
  have quotient : quotientHalfUp number.numerator number.denominator = count := by
    unfold quotientHalfUp
    refine Nat.div_eq_of_lt_le ?_ ?_
    · exact_mod_cast lower.le
    · exact_mod_cast upper
  unfold round
  split
  · rename_i whole
    have one : number.denominator = 1 := by
      obtain ⟨power, exponent_eq⟩ := Int.eq_ofNat_of_zero_le whole
      unfold denominator
      rw [exponent_eq]
      simp
    rw [one, quotientHalfUp] at quotient
    refine ⟨unsigned, ?_⟩
    rw [value_eq_div, one, Nat.cast_one, div_one]
    have numerator_eq : number.numerator = count := by omega
    exact_mod_cast numerator_eq
  · obtain ⟨whole, found, stands⟩ := ofNat?_stands_of_lt small
    have rounded : ofQuotient? false count 1 = some whole := found
    rw [quotient, unsigned, rounded]
    exact stands

end Binary64

/-! ### Short decimals -/

namespace Decimal

open Binary64 (InRange ofQuotient?)

/-- A decimal of at most 15 digits and 22 places. -/
structure IsShort (decimal : Decimal) : Prop where
  digits : decimal.coefficient < 10 ^ 15
  places : decimal.scale ≤ 22

instance (decimal : Decimal) : Decidable decimal.IsShort :=
  decidable_of_iff (decimal.coefficient < 10 ^ 15 ∧ decimal.scale ≤ 22)
    ⟨fun both => ⟨both.1, both.2⟩, fun short => ⟨short.digits, short.places⟩⟩

section Magnitude

variable {coefficient scale : Nat} (some_digit : 0 < coefficient) (digits : coefficient < 10 ^ 15)
  (places : scale ≤ 22)

include some_digit digits places in
theorem div_bounds : 1 / 10 ^ 22 ≤ (coefficient : ℚ) / 10 ^ scale
    ∧ (coefficient : ℚ) / 10 ^ scale ≤ 10 ^ 15 := by
  have least : (1 : ℚ) ≤ coefficient := by exact_mod_cast some_digit
  have most : (coefficient : ℚ) ≤ 10 ^ 15 := by exact_mod_cast digits.le
  constructor
  · gcongr
    norm_num
  · exact (div_le_self (by linarith) (one_le_pow₀ (by norm_num))).trans most

include some_digit digits places in
theorem inRange_div : InRange ((coefficient : ℚ) / 10 ^ scale) := by
  obtain ⟨least, most⟩ := div_bounds some_digit digits places
  exact .of_bounds (by linarith) (by linarith)

include digits in
/-- The product is off from the coefficient by less than a half; all errors are measured in units of
the last place. -/
theorem product_near {fraction sum product rest whole : ℚ}
    (parts : whole + rest / 10 ^ scale = coefficient / 10 ^ scale)
    (whole_nonneg : 0 ≤ whole)
    (fraction_near : |fraction - rest / 10 ^ scale| ≤ rest / 10 ^ scale / 2 ^ 53)
    (sum_near : |sum - (whole + fraction)| ≤ (whole + fraction) / 2 ^ 53)
    (product_near : |product - sum * 10 ^ scale| ≤ sum * 10 ^ scale / 2 ^ 53) :
    |product - coefficient| < 1 / 2 := by
  have scale_pos : (0 : ℚ) < 10 ^ scale := by positivity
  have most : (coefficient : ℚ) ≤ 10 ^ 15 := by exact_mod_cast digits.le
  have whole_scaled : whole * 10 ^ scale + rest = coefficient := by
    rw [← mul_left_inj' scale_pos.ne', add_mul, div_mul_cancel₀ _ scale_pos.ne',
      div_mul_cancel₀ _ scale_pos.ne'] at parts
    exact parts
  have whole_le : 0 ≤ whole * 10 ^ scale := by positivity
  have fraction_scaled : |fraction * 10 ^ scale - rest| ≤ rest / 2 ^ 53 := by
    calc |fraction * 10 ^ scale - rest|
        = |fraction - rest / 10 ^ scale| * 10 ^ scale := by
          rw [← abs_of_pos scale_pos, ← abs_mul, abs_of_pos scale_pos, sub_mul,
            div_mul_cancel₀ _ scale_pos.ne']
      _ ≤ rest / 10 ^ scale / 2 ^ 53 * 10 ^ scale := by gcongr
      _ = rest / 2 ^ 53 := by field_simp
  have sum_scaled : |sum * 10 ^ scale - (whole * 10 ^ scale + fraction * 10 ^ scale)|
      ≤ (whole * 10 ^ scale + fraction * 10 ^ scale) / 2 ^ 53 := by
    calc |sum * 10 ^ scale - (whole * 10 ^ scale + fraction * 10 ^ scale)|
        = |sum - (whole + fraction)| * 10 ^ scale := by
          rw [← abs_of_pos scale_pos, ← abs_mul, abs_of_pos scale_pos]
          congr 1
          ring
      _ ≤ (whole + fraction) / 2 ^ 53 * 10 ^ scale := by gcongr
      _ = (whole * 10 ^ scale + fraction * 10 ^ scale) / 2 ^ 53 := by ring
  generalize fraction * 10 ^ scale = fractions at fraction_scaled sum_scaled
  generalize sum * 10 ^ scale = sums at sum_scaled product_near
  generalize whole * 10 ^ scale = wholes at whole_scaled whole_le sum_scaled
  rw [abs_le] at fraction_scaled sum_scaled product_near
  rw [abs_lt]
  constructor <;> linarith

include some_digit digits places in
/-- A whole part and the double of a fraction have a sum, whose product with the power of ten is
near the coefficient. -/
theorem exists_product {whole fraction ten : Binary64} {rest : ℚ}
    (parts : whole.value + rest / 10 ^ scale = coefficient / 10 ^ scale)
    (whole_nonneg : 0 ≤ whole.value)
    (unsigned : whole.negative = false) (fraction_unsigned : fraction.negative = false)
    (rounds : fraction.Rounds (rest / 10 ^ scale)) (ten_stands : ten.Stands (10 ^ scale)) :
    ∃ sum product, whole.add? fraction = some sum ∧ sum.mul? ten = some product
      ∧ product.negative = false ∧ |product.value - coefficient| < 1 / 2 := by
  have scale_pos : (0 : ℚ) < 10 ^ scale := by positivity
  have fraction_near := rounds.error_le
  have part_pos : 0 < rest / 10 ^ scale := rounds.pos
  obtain ⟨least, most⟩ := div_bounds some_digit digits places
  have first := abs_le.mp fraction_near
  have sum_range : InRange (whole.value + fraction.value) :=
    .of_bounds (by linarith) (by linarith)
  obtain ⟨num, den, some_den, equal, found⟩ := Binary64.add?_spec unsigned fraction_unsigned
  obtain ⟨sum, sum_found, sum_unsigned, sum_rounds⟩ :=
    Binary64.exists_rounds some_den equal sum_range
  have sum_near := sum_rounds.error_le
  have product_range : InRange (sum.value * ten.value) := by
    have second := abs_le.mp sum_near
    have one_le : (1 : ℚ) ≤ 10 ^ scale := one_le_pow₀ (by norm_num)
    have le_most : (10 : ℚ) ^ scale ≤ 10 ^ 22 := pow_le_pow_right₀ (by norm_num) places
    rw [ten_stands.value_eq]
    refine .of_bounds ?_ ?_
    · calc (1 : ℚ) / 10 ^ 200 ≤ sum.value * 1 := by linarith
        _ ≤ sum.value * 10 ^ scale := by gcongr; linarith
    · calc sum.value * 10 ^ scale ≤ 10 ^ 16 * 10 ^ 22 := by gcongr; linarith
        _ ≤ 10 ^ 200 := by norm_num
  obtain ⟨num, den, some_den, equal, product_found⟩ :=
    Binary64.mul?_spec sum_unsigned ten_stands.unsigned
  obtain ⟨product, found_product, product_unsigned, product_rounds⟩ :=
    Binary64.exists_rounds some_den equal product_range
  have near := product_rounds.error_le
  rw [ten_stands.value_eq] at near
  exact ⟨sum, product, found.trans sum_found, product_found.trans found_product, product_unsigned,
    product_near digits parts whole_nonneg fraction_near sum_near near⟩

include digits places in
/-- The whole part, what remains of the coefficient, and the power of ten are doubles. -/
theorem exists_parts : ∃ ten whole rest : Binary64,
    (Binary64.powerOfTen? scale = some ten ∧ ten.Stands (10 ^ scale))
      ∧ (Binary64.ofNat? (coefficient / 10 ^ scale) = some whole
        ∧ whole.Stands (coefficient / 10 ^ scale : ℕ))
      ∧ Binary64.ofNat? (coefficient % 10 ^ scale) = some rest
      ∧ rest.Stands (coefficient % 10 ^ scale : ℕ) := by
  have small {count : Nat} (less : count ≤ coefficient) : count < 2 ^ 53 := by omega
  obtain ⟨ten, of_ten⟩ := Binary64.powerOfTen?_stands places
  obtain ⟨whole, of_whole⟩ := Binary64.ofNat?_stands_of_lt (small (Nat.div_le_self _ (10 ^ scale)))
  obtain ⟨rest, of_rest⟩ := Binary64.ofNat?_stands_of_lt (small (Nat.mod_le _ (10 ^ scale)))
  exact ⟨ten, whole, rest, of_ten, of_whole, of_rest⟩

include some_digit digits places in
/-- Where nothing comes after the point, the whole part is the double of the quotient. -/
theorem fractionalMagnitude?_of_whole (none : coefficient % 10 ^ scale = 0) :
    fractionalMagnitude? coefficient scale = ofQuotient? false coefficient (10 ^ scale) := by
  have scale_rat : (10 : ℚ) ^ scale ≠ 0 := by positivity
  obtain ⟨ten, whole, rest, ⟨ten_found, ten_stands⟩, ⟨whole_found, -⟩, rest_found, rest_stands⟩ :=
    exists_parts digits places
  have nothing : rest.div? ten = some (Binary64.zero false) :=
    Binary64.div?_eq_zero rest_stands.unsigned ten_stands.unsigned
      (by rw [rest_stands.value_eq, none, Nat.cast_zero])
  have alone : fractionalMagnitude? coefficient scale = some whole := by
    unfold fractionalMagnitude?
    simp only [Nat.pow_eq, ten_found, whole_found, rest_found, Option.bind_eq_bind, Option.bind_some,
      nothing]
    rfl
  rw [alone]
  refine whole_found.symm.trans (Binary64.ofQuotient?_eq_of_div_eq Nat.one_pos
    (Nat.pow_pos (by decide)) ?_ (by push_cast; rfl) (inRange_div some_digit digits places) false)
  rw [Nat.cast_one, div_one, eq_div_iff scale_rat]
  exact_mod_cast Nat.div_mul_cancel (Nat.dvd_of_mod_eq_zero none)

include some_digit digits places in
/-- Where something comes after the point, the rounded product is the coefficient. -/
theorem fractionalMagnitude?_of_rest (some_rest : 0 < coefficient % 10 ^ scale) :
    fractionalMagnitude? coefficient scale = ofQuotient? false coefficient (10 ^ scale) := by
  have scale_rat : (0 : ℚ) < 10 ^ scale := by positivity
  obtain ⟨ten, whole, rest, ⟨ten_found, ten_stands⟩, ⟨whole_found, whole_stands⟩, rest_found,
    rest_stands⟩ := exists_parts digits places
  have ten_pos : 0 < ten.value := by
    rw [ten_stands.value_eq]
    exact scale_rat
  obtain ⟨num, den, some_den, equal, divided⟩ :=
    Binary64.div?_spec rest_stands.unsigned ten_stands.unsigned ten_pos
  rw [rest_stands.value_eq, ten_stands.value_eq] at equal
  obtain ⟨fraction, fraction_found, fraction_unsigned, fraction_rounds⟩ :=
    Binary64.exists_rounds some_den equal
      (inRange_div some_rest ((Nat.mod_le _ _).trans_lt digits) places)
  have some_fraction : fraction.isZero = false :=
    beq_eq_false_iff_ne.mpr fraction_rounds.mantissa_pos.ne'
  have parts : whole.value + (coefficient % 10 ^ scale : ℕ) / 10 ^ scale
      = coefficient / 10 ^ scale := by
    rw [whole_stands.value_eq, add_div' _ _ _ scale_rat.ne']
    congr 1
    exact_mod_cast Nat.div_add_mod' coefficient (10 ^ scale)
  have whole_nonneg : 0 ≤ whole.value := by
    rw [whole_stands.value_eq]
    exact Nat.cast_nonneg _
  obtain ⟨sum, product, sum_found, product_found, product_unsigned, near⟩ :=
    exists_product some_digit digits places parts whole_nonneg whole_stands.unsigned
      fraction_unsigned fraction_rounds ten_stands
  have rounded := Binary64.round_stands product_unsigned near (by omega)
  unfold fractionalMagnitude?
  simp only [Nat.pow_eq, ten_found, whole_found, rest_found, divided, fraction_found, some_fraction,
    sum_found, product_found, Option.bind_eq_bind, Option.bind_some, Bool.false_eq_true, if_false]
  refine Binary64.div?_eq_ofQuotient? rounded.unsigned ten_stands.unsigned ten_pos
    (Nat.pow_pos (by decide)) ?_ ?_
  · rw [rounded.value_eq, ten_stands.value_eq]
    push_cast
    rfl
  · rw [rounded.value_eq, ten_stands.value_eq]
    exact inRange_div some_digit digits places

include some_digit digits places in
/-- **The magnitude of a short decimal with places is rounded once.** -/
theorem fractionalMagnitude?_eq :
    fractionalMagnitude? coefficient scale = ofQuotient? false coefficient (10 ^ scale) := by
  rcases Nat.eq_zero_or_pos (coefficient % 10 ^ scale) with none | some_rest
  · exact fractionalMagnitude?_of_whole some_digit digits places none
  · exact fractionalMagnitude?_of_rest some_digit digits places some_rest

end Magnitude

/-- **The double of a short decimal other than zero is the one nearest to it.** -/
theorem isNearest_toBinary64 {decimal : Decimal} (short : decimal.IsShort)
    (some_digit : 0 < decimal.coefficient) :
    decimal.toBinary64.negative = decimal.negative
      ∧ decimal.toBinary64.IsNearest ((decimal.coefficient : ℚ) / 10 ^ decimal.scale) := by
  have scale_pos : 0 < 10 ^ decimal.scale := Nat.pow_pos (by decide)
  have range := inRange_div some_digit short.digits short.places
  obtain ⟨number, found, unsigned, rounds⟩ :=
    Binary64.exists_rounds scale_pos (by push_cast; rfl) range
  have magnitude : (if decimal.scale = 0 then Binary64.ofNat? decimal.coefficient
      else fractionalMagnitude? decimal.coefficient decimal.scale) = some number := by
    split
    · rename_i whole
      rw [whole] at found
      exact found
    · rw [fractionalMagnitude?_eq some_digit short.digits short.places, found]
  have not_zero : decimal.isZero = false := beq_eq_false_iff_ne.mpr some_digit.ne'
  have signed : decimal.toBinary64 = { number with negative := decimal.negative } := by
    unfold toBinary64
    simp only [magnitude, not_zero, Bool.not_false, Bool.and_true]
    cases decimal.negative with
    | true =>
      unfold Binary64.neg
      rw [unsigned]
      rfl
    | false => rw [if_neg Bool.false_ne_true, ← unsigned]
  rw [signed]
  refine ⟨rfl, ⟨rounds.normal, rounds.least, rounds.most, rounds.contains⟩, ?_⟩
  intro num den some_den equal
  rw [Binary64.ofQuotient?_eq_of_div_eq some_den scale_pos equal (by push_cast; rfl) range false,
    found, Binary64.magnitude, ← unsigned]

/-- Zero is written as the double zero, without a sign. -/
theorem toBinary64_eq_zero {decimal : Decimal} (short : decimal.IsShort)
    (none : decimal.coefficient = 0) : decimal.toBinary64 = .zero false := by
  have zero : decimal.isZero = true := beq_iff_eq.mpr none
  have magnitude : (if decimal.scale = 0 then Binary64.ofNat? decimal.coefficient
      else fractionalMagnitude? decimal.coefficient decimal.scale) = some (.zero false) := by
    rw [none]
    split
    · rfl
    · obtain ⟨ten, found, stands⟩ := Binary64.powerOfTen?_stands short.places
      have nothing : (Binary64.zero false).div? ten = some (.zero false) :=
        Binary64.div?_eq_zero rfl stands.unsigned (by simp [Binary64.value, Binary64.zero])
      have zero_found : Binary64.ofNat? 0 = some (.zero false) := rfl
      unfold fractionalMagnitude?
      simp only [found, Nat.zero_div, Nat.zero_mod, zero_found, Option.bind_eq_bind,
        Option.bind_some, nothing]
      rfl
  unfold toBinary64
  simp only [magnitude, zero, Bool.not_true, Bool.and_false, Bool.false_eq_true, if_false]

end Decimal

end Paydesk
