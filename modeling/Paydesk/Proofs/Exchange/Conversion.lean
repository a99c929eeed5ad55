/-
**Amounts multiplied by a factor.**

A converted amount and a percentage of an amount are rounded twice: the product to as many places as
there is room for, and then to cents. Wherever some decimal is the product the first rounding does
nothing. Else it can carry a product that falls short of a half cent up to it, and then the amount
is a cent more than the product rounded at once.

* `Amount.Rounds`: what the amount of a number has to do with the number;
* `Decimal.Fits.rounds`: **a decimal that fits a number, rounded to cents**;
* `Decimal.exists_div_hundred`: a hundredth of a percentage;
* `scale_rounds`: **amounts multiplied by a factor, converted amounts and percentages**;
* `shortOfHalfCent_carried`: **a product below a half cent** that becomes a cent.
-/

import Paydesk.Exchange.Rate
import Paydesk.Pricing.Commission
import Paydesk.Proofs.Decimal.Product

namespace Paydesk

open Decimal (maxScale limit)

/-! ### Numbers in cents -/

/-- **An amount stands for a number**:

* it is the number rounded to cents once, where some decimal is the number;
* with room for so many places of the number, it is off by half a cent and half a unit in the last
  of these places at most;
* with room for three places or more, it is the number rounded to cents once, or it is a cent
  further from zero and the number falls short of the half cent between by no more than half a unit
  in the last of these places. -/
structure Amount.Rounds (amount : Amount) (exact : ℚ) : Prop where
  once : ∀ decimal : Decimal, decimal.toRat = exact → amount.toRat = nearest 2 exact
  near : ∀ places ≤ maxScale, |exact| * 10 ^ places ≤ limit - 1 →
    |amount.toRat - exact| ≤ 1 / 200 + 1 / (2 * 10 ^ places)
  nearly : ∀ places ≤ maxScale, 3 ≤ places → |exact| * 10 ^ places ≤ limit - 1 →
    amount.toRat = nearest 2 exact
      ∨ FallsShort 2 (1 / (2 * 10 ^ places)) exact
        ∧ |amount.toRat| = |nearest 2 exact| + 1 / 10 ^ 2

namespace Decimal

variable {exact : ℚ} {value : Decimal}

/-- A half cent has three places, so rounding at three places or more does not cross it. -/
theorem Fits.keeps_half (fits : Fits exact value) (three : 3 ≤ value.scale) (count : ℕ)
    (reached : count + 1 / 2 ≤ |exact| * 10 ^ 2) : count + 1 / 2 ≤ |value.toRat| * 10 ^ 2 := by
  obtain ⟨more, scale_eq⟩ := Nat.exists_eq_add_of_le three
  have unit : (0 : ℚ) < 10 ^ more := by positivity
  have split : (10 : ℚ) ^ value.scale = 10 ^ 2 * (10 * 10 ^ more) := by
    rw [scale_eq]
    ring
  have half : (count + 1 / 2 : ℚ) * (10 * 10 ^ more) = (((2 * count + 1) * 5 * 10 ^ more : ℕ) : ℚ) := by
    push_cast
    ring
  have fine : (0 : ℚ) < 10 * 10 ^ more := by positivity
  have whole : (2 * count + 1) * 5 * 10 ^ more ≤ value.coefficient := by
    refine fits.keeps _ ?_
    calc (((2 * count + 1) * 5 * 10 ^ more : ℕ) : ℚ) = (count + 1 / 2) * (10 * 10 ^ more) := half.symm
      _ ≤ |exact| * 10 ^ 2 * (10 * 10 ^ more) := mul_le_mul_of_nonneg_right reached fine.le
      _ = |exact| * 10 ^ value.scale := by rw [mul_assoc, ← split]
  have digits : |value.toRat| * 10 ^ 2 * (10 * 10 ^ more) = value.coefficient := by
    rw [mul_assoc, ← split, abs_toRat, div_mul_cancel₀ _ (by positivity)]
  refine le_of_mul_le_mul_right ?_ fine
  rw [half, digits]
  exact_mod_cast whole

variable {places : Nat}

theorem Fits.abs_round_sub_le (fits : Fits exact value) (short : places ≤ maxScale)
    (room : |exact| * 10 ^ places ≤ limit - 1) :
    |(Amount.round value).toRat - exact| ≤ 1 / 200 + 1 / (2 * 10 ^ places) := by
  have product := fits.error_le short room
  have cents := abs_nearest_sub_le 2 value.toRat
  have steps := abs_sub_le (nearest 2 value.toRat) value.toRat exact
  rw [Amount.toRat_round]
  linarith

theorem Fits.round_eq_or_fallsShort (fits : Fits exact value) (short : places ≤ maxScale)
    (three : 3 ≤ places) (room : |exact| * 10 ^ places ≤ limit - 1) :
    (Amount.round value).toRat = nearest 2 exact
      ∨ FallsShort 2 (1 / (2 * 10 ^ places)) exact
        ∧ |(Amount.round value).toRat| = |nearest 2 exact| + 1 / 10 ^ 2 := by
  rw [Amount.toRat_round]
  rcases fits.room places short room with few | ⟨whole, same⟩
  · refine nearest_eq_or_fallsShort fits.positive fits.negative (fits.error_le short room) ?_
      (fits.keeps_half (three.trans few))
    have powers : (10 : ℚ) ^ 3 ≤ 10 ^ places := pow_le_pow_right₀ (by norm_num) three
    rw [div_mul_eq_mul_div, div_lt_one (by positivity)]
    linarith
  · rw [fits.eq_of_whole same]
    exact Or.inl rfl

/-- **A decimal that fits a number, rounded to cents, stands for the number.** -/
theorem Fits.rounds (fits : Fits exact value) : (Amount.round value).Rounds exact where
  once decimal same := by rw [Amount.toRat_round, fits.eq_of_exists decimal same]
  near _ short room := fits.abs_round_sub_le short room
  nearly _ short three room := fits.round_eq_or_fallsShort short three room

/-! ### Hundredths -/

/-- A decimal that is a hundredth of another shows how many places the division needs. -/
theorem exists_hundredth_digits {percent hundredth : Decimal}
    (same : hundredth.toRat = percent.toRat / 100) :
    ∃ more digits, percent.coefficient * 10 ^ more = digits * 100 ∧ digits < limit
      ∧ percent.scale + more ≤ maxScale := by
  have unit (scale : ℕ) : (10 : ℚ) ^ scale ≠ 0 := pow_ne_zero _ (by norm_num)
  have cross : percent.coefficient * 10 ^ hundredth.scale
      = hundredth.coefficient * 100 * 10 ^ percent.scale := by
    have magnitudes : |hundredth.toRat| = |percent.toRat / 100| := by rw [same]
    rw [abs_div, abs_of_pos (by norm_num : (0 : ℚ) < 100), abs_toRat, abs_toRat, div_div,
      div_eq_div_iff (unit _) (mul_ne_zero (unit _) (by norm_num))] at magnitudes
    have whole : ((percent.coefficient * 10 ^ hundredth.scale : ℕ) : ℚ)
        = (hundredth.coefficient * 100 * 10 ^ percent.scale : ℕ) := by
      push_cast
      linarith
    exact_mod_cast whole
  have unit_pos (scale : ℕ) : 0 < 10 ^ scale := Nat.pow_pos (by decide)
  rcases Nat.le_total percent.scale hundredth.scale with fewer | more
  · obtain ⟨further, scale_eq⟩ := Nat.exists_eq_add_of_le fewer
    refine ⟨further, hundredth.coefficient, ?_, hundredth.coefficient_lt, ?_⟩
    · refine Nat.eq_of_mul_eq_mul_right (unit_pos percent.scale) ?_
      rw [← cross, scale_eq, pow_add]
      ring
    · exact scale_eq ▸ hundredth.scale_le
  · obtain ⟨zeros, scale_eq⟩ := Nat.exists_eq_add_of_le more
    have digits_eq : percent.coefficient = hundredth.coefficient * 10 ^ zeros * 100 := by
      refine Nat.eq_of_mul_eq_mul_right (unit_pos hundredth.scale) ?_
      rw [cross, scale_eq, pow_add]
      ring
    refine ⟨0, hundredth.coefficient * 10 ^ zeros, ?_, ?_, ?_⟩
    · rw [pow_zero, Nat.mul_one, digits_eq]
    · have small := percent.coefficient_lt
      omega
    · exact percent.scale_le

/-- **A hundredth of a percentage is exact** where some decimal is. -/
theorem exists_div_hundred {percent hundredth : Decimal}
    (same : hundredth.toRat = percent.toRat / 100) :
    ∃ factor, percent.div? hundred = some factor ∧ factor.toRat = percent.toRat / 100 := by
  have unit (scale : ℕ) : (10 : ℚ) ^ scale ≠ 0 := pow_ne_zero _ (by norm_num)
  cases nothing : percent.isZero with
  | true =>
    refine ⟨zero, ?_, ?_⟩
    · unfold div?
      rw [if_neg (by decide), if_pos nothing]
    · rw [toRat_eq_zero_iff.mpr nothing, toRat_eq_zero_iff.mpr rfl, zero_div]
  | false =>
    obtain ⟨more, digits, exact_eq, room, short⟩ := exists_hundredth_digits same
    obtain ⟨factor, divided, sign, cross⟩ :=
      div?_exact nothing (by decide : hundred.isZero = false) rfl exact_eq room short
    have magnitude : (factor.coefficient : ℚ) / 10 ^ factor.scale
        = percent.coefficient / 10 ^ percent.scale / 100 := by
      have cross_rat : (factor.coefficient : ℚ) * 100 * 10 ^ percent.scale
          = percent.coefficient * 10 ^ factor.scale := by exact_mod_cast cross
      rw [div_div, div_eq_div_iff (unit _) (mul_ne_zero (unit _) (by norm_num))]
      linarith
    have unsigned : hundred.negative = false := rfl
    rw [unsigned, Bool.bne_false] at sign
    refine ⟨factor, divided, ?_⟩
    rw [toRat_of_sign sign, magnitude, toRat_eq_signed, mul_div_assoc]

end Decimal

/-! ### Amounts multiplied by a factor -/

namespace Amount

variable {amount product : Amount} {factor : Decimal}

theorem rounds_of_scale? (scaled : amount.scale? factor = some product) :
    product.Rounds (amount.toRat * factor.toRat) := by
  obtain ⟨value, found, rfl⟩ := Option.map_eq_some_iff.mp scaled
  exact (Decimal.mul?_fits found).rounds

theorem exists_scale? (room : |amount.toRat * factor.toRat| ≤ limit - 1) :
    ∃ product, amount.scale? factor = some product := by
  obtain ⟨value, found⟩ := Decimal.exists_mul? room
  exact ⟨round value, Option.map_eq_some_iff.mpr ⟨value, found, rfl⟩⟩

end Amount

namespace ExchangeRate

variable {rate : ExchangeRate} {amount converted : Amount}

theorem convert_eq_ok_iff : rate.convert amount = .ok converted ↔
    0 < rate.rate.toRat ∧ amount.scale? rate.rate = some converted := by
  rw [Decimal.toRat_pos_iff]
  unfold convert
  cases rate.rate.isPositive with
  | false => simp
  | true => cases amount.scale? rate.rate <;> simp

end ExchangeRate

theorem percentOf_eq_ok_iff {amount share : Amount} {percent : Decimal} :
    percentOf amount percent = .ok share ↔
      ∃ factor, percent.div? hundred = some factor ∧ amount.scale? factor = some share := by
  rw [← Option.bind_eq_some_iff]
  unfold percentOf
  rw [← Option.bind_eq_bind]
  cases percent.div? hundred >>= amount.scale? <;> simp

/-- **Amounts multiplied by a factor.** For every amount and every factor:

* the product stands for the fraction `amount * factor`, and there is one if the fraction is no
  larger than the largest decimal;
* so does the amount converted at a rate with this factor, and there is one if the rate is above
  zero besides;
* the percentage with this factor stands for `amount * factor / 100`, if some decimal is a hundredth
  of the factor. -/
theorem scale_rounds (amount : Amount) (factor : Decimal) :
    ((∀ product, amount.scale? factor = some product →
        product.Rounds (amount.toRat * factor.toRat))
      ∧ (|amount.toRat * factor.toRat| ≤ limit - 1 → (amount.scale? factor).isSome))
    ∧ (∀ rate : ExchangeRate, rate.rate = factor →
      (∀ converted, rate.convert amount = .ok converted →
        converted.Rounds (amount.toRat * factor.toRat))
      ∧ (0 < factor.toRat → |amount.toRat * factor.toRat| ≤ limit - 1 →
        ∃ converted, rate.convert amount = .ok converted))
    ∧ (∀ hundredth : Decimal, hundredth.toRat = factor.toRat / 100 →
      (∀ share, percentOf amount factor = .ok share →
        share.Rounds (amount.toRat * factor.toRat / 100))
      ∧ (|amount.toRat * factor.toRat / 100| ≤ limit - 1 →
        ∃ share, percentOf amount factor = .ok share)) := by
  refine ⟨⟨fun product scaled => Amount.rounds_of_scale? scaled, fun room => ?_⟩,
    fun rate same => ⟨fun converted found => ?_, fun positive room => ?_⟩,
    fun hundredth same => ?_⟩
  · obtain ⟨product, scaled⟩ := Amount.exists_scale? room
    rw [scaled]
    rfl
  · subst same
    exact Amount.rounds_of_scale? (ExchangeRate.convert_eq_ok_iff.mp found).2
  · subst same
    obtain ⟨product, scaled⟩ := Amount.exists_scale? room
    exact ⟨product, ExchangeRate.convert_eq_ok_iff.mpr ⟨positive, scaled⟩⟩
  · obtain ⟨share_factor, divided, value_eq⟩ := Decimal.exists_div_hundred same
    rw [mul_div_assoc, ← value_eq]
    refine ⟨fun share found => ?_, fun room => ?_⟩
    · obtain ⟨other, found_factor, scaled⟩ := percentOf_eq_ok_iff.mp found
      cases divided.symm.trans found_factor
      exact Amount.rounds_of_scale? scaled
    · obtain ⟨product, scaled⟩ := Amount.exists_scale? room
      exact ⟨product, percentOf_eq_ok_iff.mpr ⟨share_factor, divided, scaled⟩⟩

/-- Ten units at 0.155: a product, a conversion and a percentage. -/
theorem scale_rounds_ten :
    let amount : Amount := .ofInt 10
    let factor : Decimal := ⟨false, 155, 3, by decide, by decide⟩
    let rate : ExchangeRate := ⟨"RUB", "USD", factor, .epoch⟩
    (∃ product, amount.scale? factor = some product ∧ product.toRat = nearest 2 (10 * (155 / 1000)))
      ∧ (∃ converted, rate.convert amount = .ok converted
        ∧ converted.Rounds (amount.toRat * factor.toRat))
      ∧ ∃ share, percentOf amount factor = .ok share
        ∧ share.Rounds (amount.toRat * factor.toRat / 100) := by
  intro amount factor rate
  have amount_eq : amount.toRat = 10 := by
    rw [Amount.toRat_eq_minor, (by decide : amount.minor = 1000)]
    norm_num
  have factor_eq : factor.toRat = 155 / 1000 := by
    rw [Decimal.toRat, (by decide : factor.signedCoefficient = 155)]
    norm_num
  have largest : (10 : ℚ) ≤ limit - 1 := by
    rw [le_sub_iff_add_le]
    exact_mod_cast (by decide : 10 + 1 ≤ limit)
  have room : |amount.toRat * factor.toRat| ≤ limit - 1 := by
    rw [amount_eq, factor_eq, abs_of_pos (by norm_num)]
    linarith
  have room_hundredth : |amount.toRat * factor.toRat / 100| ≤ limit - 1 := by
    rw [amount_eq, factor_eq, abs_of_pos (by norm_num)]
    linarith
  let hundredth : Decimal := ⟨false, 155, 5, by decide, by decide⟩
  have hundredth_eq : hundredth.toRat = factor.toRat / 100 := by
    rw [factor_eq, Decimal.toRat, (by decide : hundredth.signedCoefficient = 155)]
    norm_num
  let exact_product : Decimal := ⟨false, 1550, 3, by decide, by decide⟩
  have exact_eq : exact_product.toRat = amount.toRat * factor.toRat := by
    rw [amount_eq, factor_eq, Decimal.toRat, (by decide : exact_product.signedCoefficient = 1550)]
    norm_num
  obtain ⟨⟨rounds, some_product⟩, conversions, percentages⟩ := scale_rounds amount factor
  obtain ⟨convert_rounds, exists_convert⟩ := conversions rate rfl
  obtain ⟨percent_rounds, exists_percent⟩ := percentages hundredth hundredth_eq
  obtain ⟨product, scaled⟩ := Option.isSome_iff_exists.mp (some_product room)
  obtain ⟨converted, found⟩ := exists_convert (by rw [factor_eq]; norm_num) room
  obtain ⟨share, percent_found⟩ := exists_percent room_hundredth
  refine ⟨⟨product, scaled, ?_⟩, ⟨converted, found, convert_rounds converted found⟩, share,
    percent_found, percent_rounds share percent_found⟩
  rw [(rounds product scaled).once exact_product exact_eq, amount_eq, factor_eq]

/-- **A product below a half cent.** A cent at a rate a little below a half is rounded up to a half
cent and from there to a cent, where rounded at once it is nothing. -/
theorem shortOfHalfCent_carried :
    let cent : Amount := .ofMinor 1
    let factor : Decimal := ⟨false, 4999999999999999999999999999, 28, by decide, by decide⟩
    cent.scale? factor = some cent ∧ cent.toRat = 1 / 100
      ∧ cent.toRat * factor.toRat < 1 / 200 ∧ nearest 2 (cent.toRat * factor.toRat) = 0 := by
  intro cent factor
  have cent_eq : cent.toRat = 1 / 100 := by
    rw [Amount.toRat_eq_minor, (by decide : cent.minor = 1)]
    norm_num
  have factor_eq : factor.toRat = 4999999999999999999999999999 / 10 ^ 28 := by
    rw [Decimal.toRat, (by decide : factor.signedCoefficient = 4999999999999999999999999999)]
    norm_num [factor]
  refine ⟨by decide +kernel, cent_eq, ?_, ?_⟩
  · rw [cent_eq, factor_eq]
    norm_num
  · have scaled : cent.toRat * factor.toRat * 10 ^ 2 = 4999999999999999999999999999 / 10 ^ 28 := by
      rw [cent_eq, factor_eq]
      norm_num
    have nothing : ⌊(4999999999999999999999999999 / 10 ^ 28 + 1 / 2 : ℚ)⌋ = 0 := by
      rw [Int.floor_eq_iff]
      norm_num
    rw [nearest, scaled, nearestWhole_of_nonneg (by norm_num), nothing]
    norm_num

end Paydesk
