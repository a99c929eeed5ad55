/-
**The fewest digits of a short decimal.**

A number of at most 15 digits is by far the only one with so few digits that rounds to its double:
two multiples of its last digit's power of ten lie further apart than what rounds to one double. So
the search from the first digit on finds nothing before its own digits, and then these.

* `Rounds.near`: what rounds to one double lies close together;
* `Interval.holds_iff`: the test for a point of a grid;
* `Rounds.gridPoint?_eq_some`, `Rounds.gridPoint?_eq_none`: the grids of the number's digits and
  coarser ones;
* `decimalPlaces_spec`: where the search starts;
* `Rounds.search_eq`, `Rounds.places_bounds`: the search, by induction on the grids, and its start;
* `Rounds.shortest_eq`: **the digits of a number of at most 15 digits are those of its double**.
-/

import Paydesk.Proofs.Binary64.Rounding
import Paydesk.Proofs.Text.Digits

namespace Paydesk.Binary64

/-! ### What rounds to one double -/

section Interval

variable {number : Binary64} {x y : ℚ}

/-- **What rounds to one double lies close together.** -/
theorem Rounds.near (rounds : number.Rounds x) (contains : number.interval.Contains y) :
    |y - x| ≤ x / 2 ^ 51 := by
  obtain ⟨units, scaled, lower, upper⟩ := rounds.units
  have unit_pos : (0 : ℚ) < 2 ^ number.exponent := zpow_pos two_pos _
  have scaled_other : y / 2 ^ number.exponent * 2 ^ number.exponent = y :=
    div_mul_cancel₀ _ unit_pos.ne'
  obtain ⟨lower_other, upper_other⟩ := contains.bounds rounds.mantissa_pos scaled_other
  generalize y / 2 ^ number.exponent = others at *
  have least : (2 : ℚ) ^ 52 ≤ number.mantissa := by exact_mod_cast rounds.least
  have reach_le : (number.reach : ℚ) ≤ 2 := by exact_mod_cast number.reach_le
  have close : |others - units| ≤ units / 2 ^ 51 := by
    have positive : (0 : ℚ) < 2 ^ 51 := by positivity
    rw [abs_le, neg_le, le_div_iff₀ positive, le_div_iff₀ positive]
    constructor <;> linarith
  calc |y - x| = |others - units| * 2 ^ number.exponent := by
        rw [← scaled, ← scaled_other, ← sub_mul, abs_mul, abs_of_pos unit_pos]
    _ ≤ units / 2 ^ 51 * 2 ^ number.exponent := by gcongr
    _ = x / 2 ^ 51 := by rw [← scaled]; ring

/-- A fraction in units of a denominator, next to a whole number. -/
theorem le_div_mul_iff (bound num denominator : Nat) {den : Nat} (some_den : 0 < den) :
    ((bound : ℚ) ≤ (num : ℚ) / den * denominator ↔ bound * den ≤ num * denominator)
      ∧ ((num : ℚ) / den * denominator ≤ bound ↔ num * denominator ≤ bound * den) := by
  have den_pos : (0 : ℚ) < den := by exact_mod_cast some_den
  have scaled : (num : ℚ) / den * denominator = (num * denominator : ℕ) / den := by
    push_cast
    ring
  rw [scaled, le_div_iff₀ den_pos, div_le_iff₀ den_pos]
  exact ⟨by exact_mod_cast Iff.rfl, by exact_mod_cast Iff.rfl⟩

/-- The test for a point of a grid. -/
theorem Interval.holds_iff (interval : Interval) (num : Nat) {den : Nat} (some_den : 0 < den) :
    interval.holds num den = true ↔ interval.Contains ((num : ℚ) / den) := by
  obtain ⟨lower_le, le_lower⟩ := le_div_mul_iff interval.lower num interval.denominator some_den
  obtain ⟨upper_le, le_upper⟩ := le_div_mul_iff interval.upper num interval.denominator some_den
  have contains_iff : interval.Contains ((num : ℚ) / den)
      ↔ interval.lower * den ≤ num * interval.denominator
        ∧ num * interval.denominator ≤ interval.upper * den
        ∧ (interval.closed = false → interval.lower * den ≠ num * interval.denominator
          ∧ num * interval.denominator ≠ interval.upper * den) := by
    simp only [Nat.eq_iff_le_and_ge, ← lower_le, ← le_lower, ← upper_le, ← le_upper,
      ← le_antisymm_iff, ne_eq]
    exact ⟨fun ⟨lower, upper, inside⟩ => ⟨lower, upper, inside⟩,
      fun ⟨lower, upper, inside⟩ => ⟨lower, upper, inside⟩⟩
  rw [contains_iff]
  unfold holds
  cases interval.closed with
  | true => simp
  | false =>
    simp only [Bool.false_eq_true, if_false, Bool.and_eq_true, decide_eq_true_eq, true_implies]
    omega

end Interval

/-! ### Grids -/

/-- Ten to a power as a fraction. -/
theorem tenTo_eq (power : ℤ) :
    ((tenTo power).1 : ℚ) / (tenTo power).2 = 10 ^ power := by
  rw [← pow_toNat_div 10 power]
  unfold tenTo
  push_cast [Nat.pow_eq]
  rfl

theorem tenTo_pos (power : ℤ) : 0 < (tenTo power).1 ∧ 0 < (tenTo power).2 :=
  ⟨Nat.pow_pos (by decide), Nat.pow_pos (by decide)⟩

/-- A point of a grid lies in the interval where its value does. -/
theorem Interval.holds_grid_iff (interval : Interval) (point : Nat) (power : ℤ) :
    interval.holds (point * (tenTo power).1) (tenTo power).2 = true
      ↔ interval.Contains (point * 10 ^ power) := by
  rw [interval.holds_iff _ (tenTo_pos power).2, ← tenTo_eq]
  push_cast
  rw [mul_div_assoc]

/-- The middle of the interval of a double is the double. -/
theorem middle_div (number : Binary64) :
    (number.interval.middle : ℚ) / number.interval.denominator = number.value := by
  have powers := pow_toNat_div 2 number.exponent
  change ((4 * number.mantissa * Nat.pow 2 number.exponent.toNat : ℕ) : ℚ)
    / ((4 * Nat.pow 2 (-number.exponent).toNat : ℕ) : ℚ) = _
  unfold value
  rw [← powers]
  push_cast [Nat.pow_eq]
  field_simp

theorem interval_denominator_pos (number : Binary64) : 0 < number.interval.denominator :=
  Nat.mul_pos (by decide) number.denominator_pos

/-- The point of a grid below a double. -/
theorem below_spec (number : Binary64) (power : ℤ) :
    let below := number.interval.middle * (tenTo power).2
      / (number.interval.denominator * (tenTo power).1)
    (below : ℚ) * 10 ^ power ≤ number.value ∧ number.value < (below + 1) * 10 ^ power := by
  intro below
  obtain ⟨ten_pos, tenth_pos⟩ := tenTo_pos power
  have divisor_pos : 0 < number.interval.denominator * (tenTo power).1 :=
    Nat.mul_pos number.interval_denominator_pos ten_pos
  have lower : below * (number.interval.denominator * (tenTo power).1)
      ≤ number.interval.middle * (tenTo power).2 := Nat.div_mul_le_self _ _
  have upper : number.interval.middle * (tenTo power).2
      < (below + 1) * (number.interval.denominator * (tenTo power).1) := by
    rw [Nat.mul_comm (below + 1)]
    exact Nat.lt_mul_div_succ _ divisor_pos
  have denominator_rat : (0 : ℚ) < number.interval.denominator := by
    exact_mod_cast number.interval_denominator_pos
  have tenth_rat : (0 : ℚ) < (tenTo power).2 := by exact_mod_cast tenth_pos
  rw [← middle_div, ← tenTo_eq, mul_div_assoc', mul_div_assoc',
    div_le_div_iff₀ tenth_rat denominator_rat, div_lt_div_iff₀ denominator_rat tenth_rat]
  constructor
  · calc (below : ℚ) * (tenTo power).1 * number.interval.denominator
        = ((below * (number.interval.denominator * (tenTo power).1) : ℕ) : ℚ) := by
          push_cast
          ring
      _ ≤ ((number.interval.middle * (tenTo power).2 : ℕ) : ℚ) := by exact_mod_cast lower
      _ = number.interval.middle * (tenTo power).2 := by push_cast; rfl
  · calc (number.interval.middle : ℚ) * (tenTo power).2
        = ((number.interval.middle * (tenTo power).2 : ℕ) : ℚ) := by push_cast; rfl
      _ < (((below + 1) * (number.interval.denominator * (tenTo power).1) : ℕ) : ℚ) := by
          exact_mod_cast upper
      _ = ((below : ℚ) + 1) * (tenTo power).1 * number.interval.denominator := by
          push_cast
          ring

section Points

variable {number : Binary64} {x : ℚ} {point : Nat} {power : ℤ} (rounds : number.Rounds x)
  (multiple : x = point * 10 ^ power) (fine : x / 2 ^ 51 < 10 ^ power)

include rounds multiple fine

/-- Among the points of grids no finer than the number's digits, only the number itself rounds to
its double. -/
theorem contains_iff_eq {other : Nat} {coarser : ℤ} (above : power ≤ coarser) :
    number.interval.Contains (other * 10 ^ coarser) ↔ other * (10 : ℚ) ^ coarser = x := by
  constructor
  · intro contains
    have close := (rounds.near contains).trans_lt fine
    obtain ⟨more, coarser_eq⟩ := Int.eq_ofNat_of_zero_le (show 0 ≤ coarser - power by omega)
    have split : (10 : ℚ) ^ coarser = 10 ^ more * 10 ^ power := by
      rw [← zpow_natCast, ← zpow_add₀ (by norm_num)]
      congr 1
      omega
    have unit_pos : (0 : ℚ) < 10 ^ power := zpow_pos (by norm_num) _
    have difference : (other : ℚ) * 10 ^ coarser - x
        = ((other * 10 ^ more - point : ℤ) : ℚ) * 10 ^ power := by
      rw [split, multiple]
      push_cast
      ring
    have small : |((other * 10 ^ more - point : ℤ) : ℚ)| < 1 := by
      rw [difference, abs_mul, abs_of_pos unit_pos] at close
      exact (mul_lt_iff_lt_one_left unit_pos).mp close
    have none : (other * 10 ^ more - point : ℤ) = 0 := by
      rw [← Int.abs_lt_one_iff]
      exact_mod_cast small
    rw [none, Int.cast_zero, zero_mul] at difference
    linarith
  · intro same
    rw [same]
    exact rounds.contains

/-- On the grid of the number's digits, or a finer one, the digits are found: the double is less
than a unit away from the number. -/
theorem gridPoint?_eq_some (tie : Tie) :
    number.interval.gridPoint? tie power = some point := by
  obtain ⟨lower, upper⟩ := number.below_spec power
  have unit_pos : (0 : ℚ) < 10 ^ power := zpow_pos (by norm_num) _
  have holds (other : Nat) : number.interval.holds (other * (tenTo power).1) (tenTo power).2
      = decide (other = point) := by
    rw [Bool.eq_iff_iff, decide_eq_true_iff, Interval.holds_grid_iff,
      contains_iff_eq rounds multiple fine le_rfl, multiple]
    refine ⟨fun same => ?_, fun same => by rw [same]⟩
    exact_mod_cast mul_right_cancel₀ unit_pos.ne' same
  unfold Interval.gridPoint?
  simp only [holds]
  generalize number.interval.middle * (tenTo power).2
    / (number.interval.denominator * (tenTo power).1) = below at lower upper ⊢
  have near : |number.value - point * 10 ^ power| < 10 ^ power := by
    rw [← multiple]
    have positive := rounds.pos
    calc |number.value - x| ≤ x / 2 ^ 53 := rounds.error_le
      _ ≤ x / 2 ^ 51 := by gcongr <;> norm_num
      _ < 10 ^ power := fine
  rw [abs_lt] at near
  have least : point < below + 2 := by
    have scaled : (point : ℚ) * 10 ^ power < (below + 2) * 10 ^ power := by linarith
    exact_mod_cast lt_of_mul_lt_mul_right scaled unit_pos.le
  have most : below < point + 1 := by
    have scaled : (below : ℚ) * 10 ^ power < (point + 1) * 10 ^ power := by linarith
    exact_mod_cast lt_of_mul_lt_mul_right scaled unit_pos.le
  rcases (by omega : below = point ∨ below + 1 = point) with here | above
  · simp [here]
  · simp [← above]

/-- On a coarser grid nothing is found. -/
theorem gridPoint?_eq_none (tie : Tie) {coarser : ℤ} (above : power ≤ coarser)
    (other : ∀ count : Nat, (count : ℚ) * 10 ^ coarser ≠ x) :
    number.interval.gridPoint? tie coarser = none := by
  have holds (count : Nat) :
      number.interval.holds (count * (tenTo coarser).1) (tenTo coarser).2 = false := by
    rw [← Bool.not_eq_true, Interval.holds_grid_iff,
      contains_iff_eq rounds multiple fine above]
    exact other count
  unfold Interval.gridPoint?
  simp only [holds, Bool.and_self, Bool.false_eq_true, if_false]

end Points

/-! ### The first digit -/

/-- A number above zero lies between the powers of ten on both sides of its count of digits. -/
theorem digitCount_spec {number : Nat} (positive : 0 < number) :
    (10 : ℚ) ^ ((decimalPlaces.digitCount number : ℤ) - 1) ≤ number
      ∧ (number : ℚ) < 10 ^ (decimalPlaces.digitCount number : ℤ) := by
  have some_digit := List.length_pos_of_ne_nil (Text.digits_ne_nil number)
  obtain ⟨fewer, length_eq⟩ := Nat.exists_eq_add_of_lt some_digit
  rw [zero_add] at length_eq
  have least := Text.pow_length_digits_le positive length_eq
  have most := Text.lt_pow_length_digits number
  have count_eq : decimalPlaces.digitCount number = (Text.digits number).length := rfl
  rw [length_eq] at most
  rw [count_eq, length_eq, zpow_natCast, Nat.cast_succ, add_sub_cancel_right, zpow_natCast]
  exact ⟨by exact_mod_cast least, by exact_mod_cast most⟩

/-- **The first digit of a fraction stands where the count of places says.** -/
theorem decimalPlaces_spec {num den : Nat} (some_num : 0 < num) (some_den : 0 < den) :
    (10 : ℚ) ^ (decimalPlaces num den - 1) ≤ (num : ℚ) / den
      ∧ (num : ℚ) / den < 10 ^ decimalPlaces num den := by
  obtain ⟨least, most⟩ := digitCount_spec some_num
  obtain ⟨least_den, most_den⟩ := digitCount_spec some_den
  have den_pos : (0 : ℚ) < den := by exact_mod_cast some_den
  let guess : ℤ := (decimalPlaces.digitCount num : ℤ) - decimalPlaces.digitCount den
  have ten_pos (power : ℤ) : (0 : ℚ) < 10 ^ power := zpow_pos (by norm_num) _
  have joined (first second : ℤ) : (10 : ℚ) ^ first * 10 ^ second = 10 ^ (first + second) :=
    (zpow_add₀ (by norm_num) _ _).symm
  have lower : (10 : ℚ) ^ (guess - 1) ≤ (num : ℚ) / den := by
    rw [le_div_iff₀ den_pos]
    calc (10 : ℚ) ^ (guess - 1) * den
        ≤ 10 ^ (guess - 1) * 10 ^ (decimalPlaces.digitCount den : ℤ) := by gcongr
      _ = 10 ^ ((decimalPlaces.digitCount num : ℤ) - 1) := by
        rw [joined]
        congr 1
        simp only [guess]
        ring
      _ ≤ num := least
  have upper : (num : ℚ) / den < 10 ^ (guess + 1) := by
    rw [div_lt_iff₀ den_pos]
    calc (num : ℚ) < 10 ^ (decimalPlaces.digitCount num : ℤ) := most
      _ = 10 ^ (guess + 1) * 10 ^ ((decimalPlaces.digitCount den : ℤ) - 1) := by
        rw [joined]
        congr 1
        simp only [guess]
        ring
      _ ≤ 10 ^ (guess + 1) * den := by gcongr
  have below_iff : num * (tenTo guess).2 < den * (tenTo guess).1 ↔ (num : ℚ) / den < 10 ^ guess := by
    have tenth_pos : (0 : ℚ) < (tenTo guess).2 := by exact_mod_cast (tenTo_pos guess).2
    rw [← tenTo_eq, div_lt_div_iff₀ den_pos tenth_pos, mul_comm ((tenTo guess).1 : ℚ)]
    exact_mod_cast Iff.rfl
  have places : decimalPlaces num den
      = if num * (tenTo guess).2 < den * (tenTo guess).1 then guess else guess + 1 := rfl
  rw [places]
  split
  · rename_i below
    exact ⟨lower, below_iff.mp below⟩
  · rename_i above
    rw [add_sub_cancel_right]
    exact ⟨not_lt.mp (below_iff.not.mp above), upper⟩

/-! ### The search -/

section Search

variable {number : Binary64} {x : ℚ} {point : Nat} {power : ℤ} (rounds : number.Rounds x)
  (multiple : x = point * 10 ^ power) (last : point % 10 ≠ 0)

include rounds multiple last

/-- **From any coarser grid the search goes down to the number's digits.** -/
theorem Rounds.search_eq (fine : x / 2 ^ 51 < 10 ^ power) (tie : Tie) (count more : Nat) :
    number.interval.search tie (count + more + 1) (power + more) = (point, power) := by
  have unit_pos : (0 : ℚ) < 10 ^ power := zpow_pos (by norm_num) _
  induction more with
  | zero =>
    unfold Interval.search
    rw [Nat.cast_zero, add_zero, gridPoint?_eq_some rounds multiple fine tie]
  | succ more hypothesis =>
    have apart (other : Nat) : (other : ℚ) * 10 ^ (power + (more + 1 : ℕ)) ≠ x := by
      intro same
      rw [multiple, zpow_add₀ (by norm_num), zpow_natCast, mul_comm ((10 : ℚ) ^ power),
        ← mul_assoc] at same
      have digits : other * 10 ^ (more + 1) = point := by
        exact_mod_cast mul_right_cancel₀ unit_pos.ne' same
      rw [← digits, pow_succ, ← mul_assoc] at last
      exact last (Nat.mul_mod_left _ _)
    have next : power + (more + 1 : ℕ) - 1 = power + more := by omega
    unfold Interval.search
    rw [gridPoint?_eq_none rounds multiple fine tie (by omega) apart, next]
    exact hypothesis

/-- The search starts at most one grid below the number's digits, and at most 16 above. -/
theorem Rounds.places_bounds (small : point < 10 ^ 15) :
    let places := decimalPlaces number.interval.middle number.interval.denominator
    number.value < 10 ^ places ∧ power ≤ places ∧ places - 1 < power + 17 := by
  have unit_pos : (0 : ℚ) < 10 ^ power := zpow_pos (by norm_num) _
  have small_rat : (point : ℚ) < 10 ^ 15 := by exact_mod_cast small
  have some_point : (1 : ℚ) ≤ point := by
    have positive : 1 ≤ point := by omega
    exact_mod_cast positive
  have close := abs_le.mp rounds.error_le
  obtain ⟨first, beyond⟩ : (10 : ℚ) ^ (decimalPlaces number.interval.middle
        number.interval.denominator - 1) ≤ number.value
      ∧ number.value < 10 ^ decimalPlaces number.interval.middle number.interval.denominator := by
    rw [← middle_div]
    refine decimalPlaces_spec ?_ number.interval_denominator_pos
    exact Nat.mul_pos (Nat.mul_pos (by decide) rounds.mantissa_pos) (Nat.pow_pos (by decide))
  intro places
  change (10 : ℚ) ^ (places - 1) ≤ _ at first
  change _ < (10 : ℚ) ^ places at beyond
  have lower : (10 : ℚ) ^ (power - 1) < 10 ^ places := by
    have above : (10 : ℚ) ^ power ≤ x := by
      rw [multiple]
      exact le_mul_of_one_le_left unit_pos.le some_point
    rw [zpow_sub_one₀ (by norm_num)]
    linarith
  have upper : (10 : ℚ) ^ (places - 1) < 10 ^ (power + 17) := by
    have below : x < 10 ^ power * 10 ^ 15 := by
      rw [multiple, mul_comm]
      gcongr
    have split : (10 : ℚ) ^ (power + 17) = 10 ^ power * 10 ^ 17 := by
      rw [zpow_add₀ (by norm_num)]
      norm_cast
    rw [split]
    linarith
  have least := (zpow_lt_zpow_iff_right₀ (by norm_num)).mp lower
  exact ⟨beyond, by omega, (zpow_lt_zpow_iff_right₀ (by norm_num)).mp upper⟩

/-- **The digits of a number of at most 15 digits are those of its double**, also where the number
is a power of ten and its double lies below it, so that the search starts a place early. -/
theorem Rounds.shortest_eq (small : point < 10 ^ 15) (tie : Tie) :
    number.shortest tie = (point, power) := by
  have close := abs_le.mp rounds.error_le
  have stays : stripZeros 19 point power = (point, power)
      ∧ stripZeros 20 point power = (point, power) := by
    simp [stripZeros, last]
  obtain ⟨beyond, least, most⟩ := rounds.places_bounds multiple last small
  unfold shortest
  simp only
  generalize decimalPlaces number.interval.middle number.interval.denominator = places at *
  rcases eq_or_lt_of_le least with early | later
  · have finer : x / 2 ^ 51 < 10 ^ (power - 1) := by
      rw [zpow_sub_one₀ (by norm_num)]
      rw [← early] at beyond
      linarith
    have tenfold : x = (10 * point : ℕ) * 10 ^ (power - 1) := by
      rw [multiple, zpow_sub_one₀ (by norm_num)]
      push_cast
      ring
    have found : number.interval.search tie 18 (places - 1) = (10 * point, power - 1) := by
      unfold Interval.search
      rw [← early, gridPoint?_eq_some rounds tenfold finer tie]
    rw [found]
    unfold stripZeros
    simp only [Nat.mul_mod_right, if_true, Nat.mul_div_cancel_left _ (by decide : 0 < 10),
      sub_add_cancel]
    exact stays.1
  · have fine : x / 2 ^ 51 < 10 ^ power := by
      have small_rat : (point : ℚ) < 10 ^ 15 := by exact_mod_cast small
      rw [multiple, div_lt_iff₀ (by positivity), mul_comm]
      gcongr
      exact small_rat.trans (by norm_num)
    obtain ⟨more, start⟩ := Int.eq_ofNat_of_zero_le (show 0 ≤ places - 1 - power by omega)
    have start_eq : places - 1 = power + more := by omega
    have budget : 18 = 17 - more + more + 1 := by omega
    rw [start_eq, budget, rounds.search_eq multiple last fine tie (17 - more) more]
    exact stays.2

end Search

end Paydesk.Binary64
