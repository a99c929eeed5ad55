/-
**Texts of doubles.**

The text of a double has few digits and a moderate power of ten, so a reader finds a double in it,
if not always the same one.

* `Numeral.isSome_scaled?`: a significand and a moderate power of ten have a double;
* `Binary64.power_bounds`: the power of ten in the text of a double of moderate size;
* `exists_readBack?_eq`: **the text of a double of moderate size is read as a double**.
-/

import Paydesk.Proofs.Binary64.Range
import Paydesk.Proofs.Json.Decimal

namespace Paydesk

open Binary64 (Within within_ofNat? within_powerOfTen? within_mul? within_div?)

/-- A significand and a moderate power of ten have a double. -/
theorem Numeral.isSome_scaled? {significand : Nat} {power : ℤ} (small : significand < 10 ^ 17)
    (least : -150 ≤ power) (most : power ≤ 150) : (scaled? significand power).isSome := by
  obtain ⟨number, found, within, -⟩ := within_ofNat? small.le (by decide)
  unfold scaled?
  rw [found, Option.bind_eq_bind, Option.bind_some]
  split_ifs with nothing above few
  · rfl
  · obtain ⟨ten, ten_found, ten_within, -⟩ := within_powerOfTen? (by omega : power.toNat ≤ 200)
    obtain ⟨product, multiplied, -⟩ := within_mul? within
      (ten_within.mono (by omega : power.toNat ≤ 150)) (by decide)
    rw [ten_found, Option.bind_some, multiplied]
    rfl
  · omega
  · obtain ⟨ten, ten_found, ten_within, some_ten⟩ :=
      within_powerOfTen? (by omega : (-power).toNat ≤ 200)
    obtain ⟨quotient, divided, -⟩ := within_div? within
      (ten_within.mono (by omega : (-power).toNat ≤ 150)) some_ten (by decide)
    have within_step : (-power).toNat ≤ 308 := by omega
    unfold divideByTen
    rw [if_pos within_step, ten_found, Option.bind_eq_bind, Option.bind_some, divided]
    rfl

/-- The power of ten in the text of a double of moderate size. -/
theorem Binary64.power_bounds {number : Binary64} {x : ℚ} {size point : Nat} {power : ℤ}
    (rounds : number.Rounds x) (sized : Sized size x)
    (contains : number.interval.Contains (point * 10 ^ power)) (some_point : 0 < point)
    (digits : point < 10 ^ 17) : -(size + 18 : ℤ) ≤ power ∧ power ≤ size + 1 := by
  have near : |(point : ℚ) * 10 ^ power - x| ≤ x / 2 := by
    refine (rounds.near contains).trans ?_
    have positive := sized.pos
    gcongr
    norm_num
  obtain ⟨least, most⟩ := sized.near near
  have unit : (0 : ℚ) < 10 ^ power := zpow_pos (by norm_num) _
  have one_le : (1 : ℚ) ≤ point := by exact_mod_cast some_point
  have less : (point : ℚ) ≤ 10 ^ 17 := by exact_mod_cast digits.le
  constructor
  · have bound : (10 : ℚ) ^ (-(size + 18 : ℤ)) ≤ 10 ^ power :=
      calc (10 : ℚ) ^ (-(size + 18 : ℤ)) = 1 / 10 ^ (size + 1) / 10 ^ 17 := by
            rw [zpow_neg, div_div, ← pow_add, one_div]
            norm_cast
        _ ≤ point * 10 ^ power / 10 ^ 17 := by gcongr
        _ ≤ 10 ^ 17 * 10 ^ power / 10 ^ 17 := by gcongr
        _ = 10 ^ power := mul_div_cancel_left₀ _ (by positivity)
    exact (zpow_le_zpow_iff_right₀ (by norm_num)).mp bound
  · have bound : (10 : ℚ) ^ power ≤ 10 ^ ((size + 1 : ℕ) : ℤ) :=
      calc (10 : ℚ) ^ power ≤ point * 10 ^ power := le_mul_of_one_le_left unit.le one_le
        _ ≤ 10 ^ (size + 1) := most
        _ = 10 ^ ((size + 1 : ℕ) : ℤ) := (zpow_natCast _ _).symm
    have exponents := (zpow_le_zpow_iff_right₀ (by norm_num)).mp bound
    omega

namespace Json

/-- **The text of a double of moderate size is read as a double.** -/
theorem exists_readBack?_eq {number : Binary64} (within : number.magnitude.Within 123) :
    ∃ back, readBack? number = some (.float back) := by
  cases nothing : number.isZero with
  | true =>
    unfold readBack? Binary64.writeShort
    simp only [nothing, if_true]
    cases number.negative with
    | true => exact ⟨.zero true, rfl⟩
    | false => exact ⟨.zero false, rfl⟩
  | false =>
    obtain ⟨x, rounds_magnitude, sized⟩ := within.rounds nothing
    have rounds : number.Rounds x := ⟨rounds_magnitude.normal, rounds_magnitude.least,
      rounds_magnitude.most, rounds_magnitude.contains⟩
    obtain ⟨point, power, shortest, last, digits, contains⟩ :=
      Binary64.shortest_spec rounds.mantissa_pos rounds.most .toEven
    have some_point : 0 < point := by omega
    obtain ⟨least, most⟩ := Binary64.power_bounds rounds sized contains some_point digits
    have formed := Numeral.layout_isWellFormed number.negative power some_point
    have small := Numeral.layout_significand_lt number.negative power digits
    have moderate : -150 ≤ (Numeral.layout number.negative point power).power
        ∧ (Numeral.layout number.negative point power).power ≤ 150 := by
      rcases Numeral.layout_spec number.negative power point with
        ⟨-, -, power_eq⟩ | ⟨-, -, -, power_eq⟩ <;> rw [power_eq] <;> omega
    obtain ⟨magnitude, found⟩ := Option.isSome_iff_exists.mp
      (Numeral.isSome_scaled? small moderate.1 moderate.2)
    have fits : (Numeral.layout number.negative point power).significand ≤ Numeral.maxSignificand :=
      small.le.trans (by decide)
    have read := readNumber?_signed formed
    rw [Numeral.layout_negative, Numeral.float?_eq formed fits, found] at read
    unfold readBack?
    rw [Binary64.toList_writeShort nothing shortest, read]
    exact ⟨_, rfl⟩

end Json

end Paydesk
