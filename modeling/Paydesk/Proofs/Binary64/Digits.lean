/-
**Seventeen digits are enough.**

What rounds to a double reaches on both sides of it by more than half a step between numbers of 17
digits. So the search for the fewest digits ends at the seventeenth grid at the latest, with a
number that rounds to the double.

* `contains_of_near`: how far the interval of a double reaches;
* `gridPoint?_spec`, `gridPoint?_isSome`: the point of a grid, and when there is one;
* `Interval.search_spec`, `stripZeros_spec`: what the search and the stripping find, by induction;
* `shortest_spec`: **a double has at most 17 digits, and they round to it**.
-/

import Paydesk.Proofs.Binary64.Shortest

namespace Paydesk.Binary64

variable {number : Binary64} {tie : Tie} {point : Nat} {power : ℤ}

/-! ### One grid -/

theorem value_pos (some_mantissa : 0 < number.mantissa) : 0 < number.value := by
  have mantissa_pos : (0 : ℚ) < number.mantissa := by exact_mod_cast some_mantissa
  exact mul_pos mantissa_pos (zpow_pos two_pos _)

/-- **Whatever is nearer to a double than one part in `2 ^ 54` rounds to it.** -/
theorem contains_of_near {y : ℚ} (some_mantissa : 0 < number.mantissa)
    (small : number.mantissa < 2 ^ 53) (near : |y - number.value| < number.value / 2 ^ 54) :
    number.interval.Contains y := by
  have unit_pos : (0 : ℚ) < 2 ^ number.exponent := zpow_pos two_pos _
  have scaled : y / 2 ^ number.exponent * 2 ^ number.exponent = y := div_mul_cancel₀ _ unit_pos.ne'
  have close : |y / 2 ^ number.exponent - number.mantissa| < number.mantissa / 2 ^ 54 := by
    refine lt_of_mul_lt_mul_right ?_ unit_pos.le
    calc |y / 2 ^ number.exponent - number.mantissa| * 2 ^ number.exponent
        = |y - number.value| := by
          rw [← abs_of_pos unit_pos, ← abs_mul, abs_of_pos unit_pos, sub_mul, scaled]
          rfl
      _ < number.value / 2 ^ 54 := near
      _ = number.mantissa / 2 ^ 54 * 2 ^ number.exponent := by
          unfold value
          ring
  have reach : 4 * (number.mantissa / 2 ^ 54 : ℚ) ≤ number.reach := by
    rcases number.reach_cases with ⟨power, one⟩ | two
    · rw [one, power]
      norm_num
    · have most : (number.mantissa : ℚ) ≤ 2 ^ 53 := by exact_mod_cast small.le
      rw [two]
      push_cast
      linarith
  have reach_le : (number.reach : ℚ) ≤ 2 := by exact_mod_cast number.reach_le
  rw [abs_lt] at close
  exact contains_interval some_mantissa scaled (by linarith) (by linarith)
    fun _ => ⟨by linarith, by linarith⟩

/-- The point of a grid is one of the two next to the double, and it rounds to the double. -/
theorem gridPoint?_spec (found : number.interval.gridPoint? tie power = some point) :
    number.interval.Contains (point * 10 ^ power) ∧ ∃ below : Nat,
      (below : ℚ) * 10 ^ power ≤ number.value ∧ number.value < (below + 1) * 10 ^ power
        ∧ below ≤ point ∧ point ≤ below + 1 := by
  obtain ⟨lower, upper⟩ := number.below_spec power
  rw [← Interval.holds_grid_iff]
  unfold Interval.gridPoint? at found
  simp only at found
  generalize number.interval.middle * (tenTo power).2
    / (number.interval.denominator * (tenTo power).1) = below at lower upper found
  suffices number.interval.holds (point * (tenTo power).1) (tenTo power).2 = true
      ∧ (point = below ∨ point = below + 1) from
    ⟨this.1, below, lower, upper, by omega, by omega⟩
  split_ifs at found with both nearer further
  · cases found
    exact ⟨(Bool.and_eq_true _ _ ▸ both).1, Or.inl rfl⟩
  · cases found
    exact ⟨(Bool.and_eq_true _ _ ▸ both).2, Or.inr rfl⟩
  · rw [Bool.and_eq_true] at both
    cases tie with
    | toEven =>
      cases found
      rcases Nat.mod_two_eq_zero_or_one below with even | odd
      · rw [even]
        exact ⟨both.1, Or.inl rfl⟩
      · rw [odd]
        exact ⟨both.2, Or.inr rfl⟩
    | up =>
      cases found
      exact ⟨both.2, Or.inr rfl⟩
  · cases found
    exact ⟨by assumption, Or.inl rfl⟩
  · cases found
    exact ⟨by assumption, Or.inr rfl⟩

/-- A grid fine enough has a point that rounds to the double: one of the two next to it is no
further away than half a step. -/
theorem gridPoint?_isSome (some_mantissa : 0 < number.mantissa) (small : number.mantissa < 2 ^ 53)
    (fine : 2 ^ 53 * 10 ^ power < number.value) (tie : Tie) :
    (number.interval.gridPoint? tie power).isSome := by
  obtain ⟨lower, upper⟩ := number.below_spec power
  have near (other : Nat) (close : |(other : ℚ) * 10 ^ power - number.value| < number.value / 2 ^ 54) :
      number.interval.holds (other * (tenTo power).1) (tenTo power).2 = true :=
    (Interval.holds_grid_iff _ _ _).mpr (contains_of_near some_mantissa small close)
  unfold Interval.gridPoint?
  simp only
  generalize number.interval.middle * (tenTo power).2
    / (number.interval.denominator * (tenTo power).1) = below at lower upper ⊢
  have holds : number.interval.holds (below * (tenTo power).1) (tenTo power).2 = true
      ∨ number.interval.holds ((below + 1) * (tenTo power).1) (tenTo power).2 = true := by
    rcases lt_or_ge (number.value - below * 10 ^ power) (number.value / 2 ^ 54) with close | far
    · exact Or.inl (near below (abs_lt.mpr ⟨by linarith, by linarith [value_pos some_mantissa]⟩))
    · refine Or.inr (near (below + 1) (abs_lt.mpr ?_))
      push_cast
      constructor <;> linarith
  split_ifs with both
  · rfl
  · rfl
  · cases tie <;> rfl
  · rfl
  · rfl
  · exact absurd holds (by simp_all)

/-! ### The search -/

/-- The search stops at a grid with a point, if it comes past one. -/
theorem Interval.search_spec {interval : Interval} {target : ℤ}
    (found : (interval.gridPoint? tie target).isSome) {count : Nat}
    (least : power - count < target) (most : target ≤ power) :
    ∃ point last, interval.search tie count power = (point, last)
      ∧ interval.gridPoint? tie last = some point ∧ target ≤ last ∧ last ≤ power := by
  induction count generalizing power with
  | zero => omega
  | succ count hypothesis =>
    unfold search
    cases here : interval.gridPoint? tie power with
    | some point => exact ⟨point, power, rfl, here, most, le_rfl⟩
    | none =>
      have further : target ≠ power := by
        rintro rfl
        rw [here] at found
        exact absurd found (by decide)
      obtain ⟨point, last, result, point_found, above, below⟩ :=
        hypothesis (by push_cast at least; omega) (by omega : target ≤ power - 1)
      exact ⟨point, last, result, point_found, above, by omega⟩

/-- Stripping takes all zeros off the end of a number. -/
theorem stripZeros_spec {count digits : Nat} (some_digit : 0 < digits) (short : digits < 10 ^ count)
    (power : ℤ) : ∃ point zeros : Nat, stripZeros count digits power = (point, power + zeros)
      ∧ digits = point * 10 ^ zeros ∧ point % 10 ≠ 0 := by
  induction count generalizing digits power with
  | zero => omega
  | succ count hypothesis =>
    unfold stripZeros
    split
    · rename_i zero
      obtain ⟨point, zeros, result, split, last⟩ :=
        hypothesis (by omega : 0 < digits / 10) (by rw [pow_succ] at short; omega) (power + 1)
      refine ⟨point, zeros + 1, ?_, ?_, last⟩
      · rw [result, Nat.cast_succ, add_assoc, add_comm 1]
      · rw [pow_succ, ← mul_assoc, ← split]
        omega
    · rename_i last
      exact ⟨digits, 0, by simp, by simp, last⟩

/-- **A double has at most 17 digits, and they round to it**: on the grid that is found it has its
first digit, and no more than 17 of them. -/
theorem shortest_spec (some_mantissa : 0 < number.mantissa) (small : number.mantissa < 2 ^ 53)
    (tie : Tie) : ∃ point power, number.shortest tie = (point, power)
      ∧ point % 10 ≠ 0 ∧ point < 10 ^ 17 ∧ number.interval.Contains (point * 10 ^ power) := by
  have ten_pos (power : ℤ) : (0 : ℚ) < 10 ^ power := zpow_pos (by norm_num) _
  have middle_pos : 0 < number.interval.middle :=
    Nat.mul_pos (Nat.mul_pos (by decide) some_mantissa) (Nat.pow_pos (by decide))
  obtain ⟨first, beyond⟩ := decimalPlaces_spec middle_pos number.interval_denominator_pos
  rw [middle_div] at first beyond
  unfold shortest
  simp only
  generalize decimalPlaces number.interval.middle number.interval.denominator = places at first beyond ⊢
  have fine : 2 ^ 53 * 10 ^ (places - 17) < number.value := by
    have split : (10 : ℚ) ^ (places - 1) = 10 ^ 16 * 10 ^ (places - 17) := by
      rw [← zpow_natCast, ← zpow_add₀ (by norm_num)]
      congr 1
      push_cast
      ring
    refine lt_of_lt_of_le ?_ (split ▸ first)
    exact mul_lt_mul_of_pos_right (by norm_num) (ten_pos _)
  obtain ⟨digits, last, search_eq, found, fewest, most⟩ :=
    Interval.search_spec (gridPoint?_isSome some_mantissa small fine tie)
      (by omega : places - 1 - ((18 : ℕ) : ℤ) < places - 17) (by omega)
  obtain ⟨contains, below, below_le, lt_above, least, near⟩ := gridPoint?_spec found
  have some_below : 0 < below := by
    have reached : (1 : ℚ) * 10 ^ last < (below + 1) * 10 ^ last := by
      rw [one_mul]
      refine lt_of_le_of_lt ?_ (first.trans_lt lt_above)
      exact zpow_le_zpow_right₀ (by norm_num) most
    have positive : (1 : ℚ) < below + 1 := lt_of_mul_lt_mul_right reached (ten_pos _).le
    have positive_nat : 1 < below + 1 := by exact_mod_cast positive
    omega
  have short : below < 10 ^ 17 := by
    have bound : (below : ℚ) * 10 ^ last < 10 ^ 17 * 10 ^ last :=
      calc (below : ℚ) * 10 ^ last ≤ number.value := below_le
        _ < 10 ^ places := beyond
        _ ≤ 10 ^ (17 + last) := zpow_le_zpow_right₀ (by norm_num) (by omega)
        _ = 10 ^ 17 * 10 ^ last := zpow_add₀ (by norm_num) _ _
    exact_mod_cast lt_of_mul_lt_mul_right bound (ten_pos _).le
  obtain ⟨point, zeros, stripped, split, last_digit⟩ :=
    stripZeros_spec (by omega : 0 < digits) (by omega : digits < 10 ^ 20) last
  refine ⟨point, last + zeros, by rw [search_eq, stripped], last_digit, ?_, ?_⟩
  · have fewer : point ≤ digits := split ▸ Nat.le_mul_of_pos_right _ (Nat.pow_pos (by decide))
    omega
  · rw [zpow_add₀ (by norm_num), zpow_natCast, mul_comm ((10 : ℚ) ^ last), ← mul_assoc]
    rw [split] at contains
    exact_mod_cast contains

end Paydesk.Binary64
