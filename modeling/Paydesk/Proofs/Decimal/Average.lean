/-
**Averages in cents.**

An average is rounded twice: the division rounds to as many places as there is room for, and the
amount of the quotient is rounded to cents. The first rounding is so fine that it never carries a
quotient across a half cent, so an average is the total divided by the count and rounded once.

* `roundHalfAway`: a fraction as a whole number, a half away from zero;
* `Amount.round_minor`: **an amount is its decimal in cents, rounded once**;
* `Decimal.IsQuotient.halfUp_eq`: a quotient rounded to cents is the fraction rounded to cents;
* `Summary.averageOf_minor`: **the average of a total**.
-/

import Paydesk.Proofs.Decimal.Minor
import Paydesk.Proofs.Decimal.Quotient
import Paydesk.Report.Figures

namespace Paydesk

/-! ### Rounding to whole numbers -/

theorem quotientHalfUp_mul (num den : Nat) {factor : Nat} (positive : 0 < factor) :
    quotientHalfUp (num * factor) (den * factor) = quotientHalfUp num den := by
  have numerator : 2 * (num * factor) + den * factor = (2 * num + den) * factor := by ring
  unfold quotientHalfUp
  rw [numerator, ← Nat.mul_assoc, Nat.mul_div_mul_right _ _ positive]

/-- Equal fractions are rounded alike. -/
theorem quotientHalfUp_congr {num den other divisor : Nat} (positive : 0 < den)
    (positive_other : 0 < divisor) (same : num * divisor = other * den) :
    quotientHalfUp num den = quotientHalfUp other divisor := by
  rw [← quotientHalfUp_mul num den positive_other, same, Nat.mul_comm den divisor,
    quotientHalfUp_mul other divisor positive]

/-- Less than a half is nothing. -/
theorem quotientHalfUp_eq_zero {num den : Nat} (less : 2 * num < den) :
    quotientHalfUp num den = 0 :=
  Nat.div_eq_of_lt (by omega)

/-- The whole number nearest to a fraction, a half away from zero. -/
def roundHalfAway (num : Int) (den : Nat) : Int :=
  if num < 0 then -(quotientHalfUp num.natAbs den : Int) else quotientHalfUp num.natAbs den

/-- A whole number of a sign and a magnitude. -/
def signed (negative : Bool) (magnitude : Nat) : Int :=
  if negative then -(magnitude : Int) else magnitude

theorem natAbs_signed (negative : Bool) (magnitude : Nat) :
    (signed negative magnitude).natAbs = magnitude := by
  unfold signed
  cases negative <;> simp

theorem signed_zero (negative : Bool) : signed negative 0 = 0 := by
  unfold signed
  cases negative <;> rfl

theorem signed_mul (negative : Bool) (magnitude factor : Nat) :
    signed negative magnitude * factor = signed negative (magnitude * factor) := by
  unfold signed
  cases negative <;> simp

/-- Rounding keeps the sign. -/
theorem roundHalfAway_signed (negative : Bool) (magnitude : Nat) {den : Nat} (positive : 0 < den) :
    roundHalfAway (signed negative magnitude) den
      = signed negative (quotientHalfUp magnitude den) := by
  have nothing : quotientHalfUp 0 den = 0 := quotientHalfUp_eq_zero (by omega)
  unfold roundHalfAway
  rw [natAbs_signed]
  by_cases zero : magnitude = 0
  · rw [zero, nothing, signed_zero]
    rfl
  · unfold signed
    cases negative with
    | true => exact if_pos (by simp only [if_true]; omega)
    | false => exact if_neg (by simp)

theorem Decimal.signedCoefficient_eq (decimal : Decimal) :
    decimal.signedCoefficient = signed decimal.negative decimal.coefficient := rfl

/-- A sign that is lost on zero makes no difference. -/
theorem signed_and_nonzero (negative : Bool) (magnitude : Nat) :
    signed (negative && magnitude != 0) magnitude = signed negative magnitude := by
  by_cases zero : magnitude = 0
  · rw [zero, signed_zero, signed_zero]
  · rw [bne_iff_ne.mpr zero, Bool.and_true]

namespace Amount

theorem minor_eq_of_sameValue {first second : Decimal} (one : first.scale ≤ places)
    (other : second.scale ≤ places) (same : first.sameValue second) :
    first.minor = second.minor :=
  sameValue_iff_minor.mp (show (Amount.mk first one).sameValue (Amount.mk second other) from same)

/-- A rounded decimal has the sign and the cut coefficient. -/
theorem signedCoefficient_round (value : Decimal) :
    (value.round places).signedCoefficient
      = signed value.negative (value.cut places).coefficient := by
  have sign : (value.cut places).negative = value.negative := by
    unfold Decimal.cut
    split <;> rfl
  unfold Decimal.round
  rw [Decimal.signedCoefficient_eq]
  simp only [sign]
  by_cases nothing : (value.cut places).coefficient = 0
  · rw [nothing, signed_zero, signed_zero]
  · have kept : (value.cut places).isZero = false := beq_false_of_ne nothing
    rw [kept, Bool.not_false, Bool.or_true, Bool.and_true]

/-- **An amount is its decimal in cents, rounded once**, a half away from zero: places after the
second are cut off, or there are none and nothing is rounded. -/
theorem round_minor (value : Decimal) :
    (round value).minor = roundHalfAway (value.signedCoefficient * 100) (10 ^ value.scale) := by
  have unit : 0 < 10 ^ value.scale := Nat.pow_pos (by decide)
  have padded : (round value).minor = (value.round places).minor :=
    minor_eq_of_sameValue (round value).scale_le (value.round_scale_le places)
      (Decimal.sameValue_padTo (value.round places) places)
  have cut : (value.cut places).coefficient * 10 ^ (places - (value.cut places).scale)
      = quotientHalfUp (value.coefficient * 100) (10 ^ value.scale) := by
    unfold Decimal.cut
    split
    · rename_i more
      rw [Nat.sub_self, pow_zero, Nat.mul_one]
      refine quotientHalfUp_congr (Nat.pow_pos (by decide) : 0 < 10 ^ (value.scale - places))
        unit ?_
      have split : value.scale = value.scale - places + places := (Nat.sub_add_cancel more.le).symm
      calc value.coefficient * 10 ^ value.scale
          = value.coefficient * 10 ^ (value.scale - places + places) := by rw [← split]
        _ = value.coefficient * 100 * 10 ^ (value.scale - places) := by unfold places; ring
    · rename_i few
      have split : 100 = 10 ^ (places - value.scale) * 10 ^ value.scale := by
        rw [← pow_add, Nat.sub_add_cancel (Nat.not_lt.mp few)]
        rfl
      rw [split, ← Nat.mul_assoc]
      exact (quotientHalfUp_exact _ unit).symm
  calc (round value).minor
      = signed value.negative (value.cut places).coefficient
          * ((10 ^ (places - (value.cut places).scale) : ℕ) : Int) := by
        rw [padded, Decimal.minor, signedCoefficient_round]
        push_cast
        rfl
    _ = signed value.negative (quotientHalfUp (value.coefficient * 100) (10 ^ value.scale)) := by
        rw [signed_mul, cut]
    _ = roundHalfAway (signed value.negative (value.coefficient * 100)) (10 ^ value.scale) :=
        (roundHalfAway_signed _ _ unit).symm
    _ = roundHalfAway (value.signedCoefficient * 100) (10 ^ value.scale) := by
        rw [← signed_mul]
        rfl

end Amount

/-! ### Averages -/

/-- A number of fine steps that is nearest to a fraction is rounded to the same whole number, if a
step is finer than the fraction's own. With an even number of steps to a whole number, what falls
short of a half does so by two half steps. -/
theorem quotientHalfUp_eq_of_near {total count coefficient fine : Nat} (even : fine % 2 = 0)
    (finer : count < fine) (positive : 0 < count)
    (upper : 2 * (total * fine) ≤ (2 * coefficient + 1) * count)
    (lower : 2 * coefficient * count ≤ 2 * (total * fine) + count) :
    quotientHalfUp coefficient fine = quotientHalfUp total count := by
  have least := Nat.div_mul_le_self (2 * total + count) (2 * count)
  have most := Nat.lt_div_mul_add (a := 2 * total + count) (Nat.mul_pos (by decide : 0 < 2) positive)
  change quotientHalfUp total count * _ ≤ _ at least
  change _ < quotientHalfUp total count * _ + _ at most
  generalize quotientHalfUp total count = whole at *
  have least_fine := Nat.mul_le_mul_right fine least
  have most_fine := Nat.mul_le_mul_right fine (Nat.succ_le_of_lt most)
  refine Nat.div_eq_of_lt_le ?_ ?_
  · by_contra less
    have apart : 2 * coefficient + fine + 2 ≤ whole * (2 * fine) := by
      have doubled : whole * (2 * fine) = 2 * (whole * fine) := by ring
      omega
    have scaled := Nat.mul_le_mul_right count apart
    nlinarith
  · by_contra more
    have scaled := Nat.mul_le_mul_right count (Nat.not_lt.mp more)
    nlinarith

/-- A division by a count is so fine that rounding its result to cents rounds the fraction: past two
places a step of the quotient is a hundredth of a step of its cents. Of a count too large for that
no cent is left for each. -/
theorem Decimal.IsQuotient.halfUp_eq {total count coefficient places : Nat} (positive : 0 < count)
    (small : total < 2 ^ 63)
    (isQuotient : IsQuotient ((total : ℚ) / 100 / count) coefficient places) :
    quotientHalfUp (coefficient * 100) (10 ^ places) = quotientHalfUp total count := by
  have count_pos : (0 : ℚ) < 100 * count := by exact_mod_cast Nat.mul_pos (by decide) positive
  have exact_eq : (total : ℚ) / 100 / count * 10 ^ places * (100 * count) = total * 10 ^ places := by
    field_simp
  have upper : 2 * (total * 10 ^ places) ≤ (2 * coefficient + 1) * (100 * count) := by
    have bound := mul_le_mul_of_nonneg_right isQuotient.upper count_pos.le
    rw [mul_assoc 2, exact_eq] at bound
    exact_mod_cast bound
  have lower : 2 * coefficient * (100 * count) ≤ 2 * (total * 10 ^ places) + 100 * count := by
    have bound := mul_le_mul_of_nonneg_right isQuotient.lower count_pos.le
    rw [add_mul, mul_assoc 2 ((total : ℚ) / 100 / count * 10 ^ places), exact_eq, one_mul] at bound
    exact_mod_cast bound
  have unit : 0 < 10 ^ places := Nat.pow_pos (by decide)
  have fine_eq {fine : Nat} (steps : 10 ^ places = fine * 100) (even : fine % 2 = 0)
      (finer : count < fine) :
      quotientHalfUp (coefficient * 100) (10 ^ places) = quotientHalfUp total count := by
    rw [steps] at upper lower ⊢
    rw [quotientHalfUp_mul _ _ (by decide)]
    exact quotientHalfUp_eq_of_near even finer positive (by nlinarith) (by nlinarith)
  rcases isQuotient.full with exact_end | most | nearly
  · refine quotientHalfUp_congr unit positive ?_
    have same : (coefficient : ℚ) * (100 * count) = total * 10 ^ places := by
      rw [exact_end, exact_eq]
    have whole : coefficient * (100 * count) = total * 10 ^ places := by exact_mod_cast same
    rw [← whole]
    ring
  · subst most
    rcases Nat.lt_or_ge count (10 ^ 26) with finer | coarse
    · exact fine_eq (by decide : 10 ^ maxScale = 10 ^ 26 * 100) (by decide) finer
    · have less : 2 * coefficient ≤ 2 * total + 1 := by
        refine Nat.le_of_mul_le_mul_right (c := 100 * count) ?_ (by omega)
        have steps : 10 ^ maxScale = 10 ^ 26 * 100 := by decide
        rw [steps] at lower
        have scaled := Nat.mul_le_mul_left (2 * total * 100) coarse
        nlinarith
      have large : 10 ^ maxScale = 10000000000000000000000000000 := by decide
      rw [quotientHalfUp_eq_zero (by omega), quotientHalfUp_eq_zero (by omega)]
  · have large : 2 ^ 93 ≤ 2 * coefficient := by
      have bound : 10 * 2 ^ 92 + 10 ≤ limit := by decide
      omega
    have fine : 1000 * (100 * count) ≤ 10 ^ places := by
      have scaled := Nat.mul_le_mul_right (100 * count) large
      have total_scaled := Nat.mul_le_mul_right (10 ^ places) (Nat.le_of_lt small)
      generalize 2 * coefficient * (100 * count) = steps at scaled lower
      generalize total * 10 ^ places = units at total_scaled lower
      generalize 10 ^ places = unit at total_scaled ⊢
      clear large upper fine_eq
      omega
    rcases Nat.lt_or_ge places 3 with few | more
    · have most : 10 ^ places ≤ 100 := Nat.pow_le_pow_right (by decide) (by omega : places ≤ 2)
      clear large
      omega
    · obtain ⟨further, rfl⟩ := Nat.exists_eq_add_of_le more
      have steps : 10 ^ (3 + further) = 10 ^ further * 10 * 100 := by ring
      exact fine_eq steps (by omega) (by omega)

namespace Summary

/-- **The average of a total** is the total divided by the count, rounded to cents once. A count
that is no decimal is so large that no cent is left for each. -/
theorem averageOf_minor {total : Amount} {count : Nat} (positive : 0 < count)
    (small : total.minor.natAbs < 2 ^ 63) :
    (averageOf total count).minor = roundHalfAway total.minor count := by
  have total_eq : total.minor = signed total.value.negative
      (total.value.coefficient * 10 ^ (Amount.places - total.value.scale)) := by
    rw [← signed_mul]
    push_cast
    rfl
  rw [total_eq, natAbs_signed] at small
  rw [total_eq, roundHalfAway_signed _ _ positive]
  unfold averageOf Decimal.ofParts?
  split
  · rename_i bounds
    let divisor := Decimal.ofParts false count 0 bounds.1 bounds.2
    change (Option.getD (total.div? divisor) .unset).minor = _
    have divisible : divisor.isZero = false := beq_false_of_ne positive.ne'
    cases nothing : total.value.isZero with
    | true =>
      have coefficient : total.value.coefficient = 0 := beq_iff_eq.mp nothing
      have none : total.div? divisor = some (.round .zero) := by
        unfold Amount.div? Decimal.div?
        simp only [divisible, nothing, Bool.false_eq_true, if_false, if_true, Option.map_some]
      rw [none, coefficient, Nat.zero_mul, quotientHalfUp_eq_zero (by omega), signed_zero]
      rfl
    | false =>
      obtain ⟨value, dropped, found, sign, isQuotient⟩ :=
        Decimal.div?_spec nothing divisible rfl
      have average : total.div? divisor = some (.round value) := by
        unfold Amount.div?
        rw [found, Option.map_some]
      have cents : quotientHalfUp (value.coefficient * 100) (10 ^ value.scale)
          = quotientHalfUp (total.value.coefficient * 10 ^ (Amount.places - total.value.scale))
            count := by
        have exact_eq : ((total.value.coefficient * 10 ^ (Amount.places - total.value.scale) : ℕ) : ℚ)
            / 100 / count
            = (total.value.coefficient : ℚ) / divisor.coefficient / 10 ^ total.value.scale := by
          have hundred : (100 : ℚ) = 10 ^ (Amount.places - total.value.scale)
              * 10 ^ total.value.scale := by
            rw [← pow_add, Nat.sub_add_cancel total.scale_le]
            norm_num [Amount.places]
          change _ = (total.value.coefficient : ℚ) / count / 10 ^ total.value.scale
          push_cast
          rw [hundred]
          field_simp
        rw [← exact_eq] at isQuotient
        rw [← isQuotient.halfUp_eq positive small]
        refine quotientHalfUp_congr (Nat.pow_pos (by decide)) (Nat.pow_pos (by decide)) ?_
        rw [pow_add]
        ring
      rw [average, Option.getD_some, Amount.round_minor, Decimal.signedCoefficient_eq, sign,
        signed_and_nonzero]
      change roundHalfAway (signed (total.value.negative != false) value.coefficient * (100 : ℕ)) _ = _
      rw [Bool.bne_false, signed_mul, roundHalfAway_signed _ _ (Nat.pow_pos (by decide)), cents]
  · rename_i many
    have large : 2 * 2 ^ 63 ≤ Decimal.limit := by decide
    rw [quotientHalfUp_eq_zero (by omega), signed_zero]
    rfl

end Summary

end Paydesk
