/-
**Days and dates.**

Every day has a date, and the date leads back to the day.

* `yearStart_yearOf_le`, `lt_yearStart_succ`: a day lies in its year;
* `sum_monthLengths`: the months of a year are as long as the year;
* `locate_spec`: where a day of the year lies among the months;
* `Date.toDays_ofDays`: **the date of a day is on that day**;
* `Date.isValid_ofDays`, `Date.ofDays_lt`: its month has such a day, and both have two digits.
-/

import Mathlib.Algebra.BigOperators.Group.List.Basic
import Mathlib.Algebra.GroupWithZero.Nat
import Paydesk.Time.Calendar

namespace Paydesk

/-! ### Years -/

/-- The average length of a year leads to the year of a day or to the one before it. -/
theorem yearStart_guess (day : Int) :
    yearStart (400 * (day + epochOffset) / 146097 + 1) ≤ day
      ∧ day < yearStart (400 * (day + epochOffset) / 146097 + 1 + 1 + 1) := by
  unfold yearStart epochOffset
  omega

/-- A day does not lie before its year. -/
theorem yearStart_yearOf_le (day : Int) : yearStart (yearOf day) ≤ day := by
  obtain ⟨least, _⟩ := yearStart_guess day
  simp only [yearOf, if_neg (Int.not_lt.mpr least)]
  split
  · assumption
  · exact least

/-- A day lies before the year after its own. -/
theorem lt_yearStart_succ (day : Int) : day < yearStart (yearOf day + 1) := by
  obtain ⟨least, most⟩ := yearStart_guess day
  simp only [yearOf, if_neg (Int.not_lt.mpr least)]
  split
  · exact most
  · exact Int.not_le.mp (by assumption)

/-- The months of a year are as long as the year. -/
theorem sum_monthLengths (year : Int) :
    ((monthLengths year).sum : Int) = yearStart (year + 1) - yearStart year := by
  have leap : isLeapYear year ↔ year % 4 = 0 ∧ (year % 100 ≠ 0 ∨ year % 400 = 0) := by
    simp [isLeapYear]
  unfold monthLengths yearStart
  by_cases extra : isLeapYear year
  · have parts := leap.mp extra
    simp only [extra, if_true, List.sum_cons, List.sum_nil]
    omega
  · have parts : ¬(year % 4 = 0 ∧ (year % 100 ≠ 0 ∨ year % 400 = 0)) := leap.not.mp extra
    simp only [extra, if_false, List.sum_cons, List.sum_nil, Bool.false_eq_true]
    omega

/-! ### Months -/

/-- The month and the day that lie so many days into a list of months. -/
theorem locate_spec (month : Nat) (lengths : List Nat) (rest : Nat) (inside : rest < lengths.sum) :
    ∃ index day, locate month lengths rest = (month + index, day + 1)
      ∧ day < lengths[index]?.getD 0 ∧ (lengths.take index).sum + day = rest := by
  induction lengths generalizing month rest with
  | nil => exact absurd inside (Nat.not_lt_zero _)
  | cons length lengths hypothesis =>
    unfold locate
    split
    · rename_i here
      exact ⟨0, rest, rfl, here, by simp⟩
    · rename_i later
      rw [List.sum_cons] at inside
      obtain ⟨index, day, found, bound, place⟩ := hypothesis (month + 1) (rest - length) (by omega)
      refine ⟨index + 1, day, ?_, by simpa using bound, ?_⟩
      · rw [found, Nat.add_assoc, Nat.add_comm 1]
      · rw [List.take_succ_cons, List.sum_cons]
        omega

namespace Date

/-- The parts of the date of a day. -/
theorem ofDays_spec (day : Int) : ∃ index rest, ofDays day = ⟨yearOf day, 1 + index, rest + 1⟩
    ∧ rest < (monthLengths (yearOf day))[index]?.getD 0
    ∧ yearStart (yearOf day) + ((monthLengths (yearOf day)).take index).sum + rest = day := by
  have least := yearStart_yearOf_le day
  have inside : (day - yearStart (yearOf day)).toNat < (monthLengths (yearOf day)).sum := by
    have most := lt_yearStart_succ day
    have length := sum_monthLengths (yearOf day)
    omega
  obtain ⟨index, rest, found, bound, place⟩ := locate_spec 1 _ _ inside
  refine ⟨index, rest, ?_, bound, ?_⟩
  · simp only [ofDays, found]
  · omega

/-- **The date of a day is on that day.** -/
theorem toDays_ofDays (day : Int) : (ofDays day).toDays = day := by
  obtain ⟨index, rest, date, _, place⟩ := ofDays_spec day
  unfold toDays
  rw [date, ← List.sum_eq_foldl, Nat.add_sub_cancel_left]
  simp only
  omega

/-- The date of a day is a date that there is. -/
theorem isValid_ofDays (day : Int) : (ofDays day).isValid := by
  obtain ⟨index, rest, date, bound, _⟩ := ofDays_spec day
  unfold isValid
  rw [date]
  simp only [Nat.add_sub_cancel_left, Bool.and_eq_true, decide_eq_true_eq]
  omega

/-- A year has twelve months, none of them longer than 31 days. -/
theorem lt_of_lt_monthLengths {year : Int} {index rest : Nat}
    (inside : rest < (monthLengths year)[index]?.getD 0) : index < 12 ∧ rest < 31 := by
  have months : index < (monthLengths year).length := by
    by_contra outside
    rw [List.getElem?_eq_none (Nat.not_lt.mp outside)] at inside
    exact absurd inside (Nat.not_lt_zero _)
  have days : ∀ length ∈ monthLengths year, length ≤ 31 := by
    unfold monthLengths
    split <;> decide
  rw [List.getElem?_eq_getElem months, Option.getD_some] at inside
  exact ⟨months, Nat.lt_of_lt_of_le inside (days _ (List.getElem_mem months))⟩

/-- The month and the day of a date have at most two digits. -/
theorem ofDays_lt (day : Int) : (ofDays day).month < 100 ∧ (ofDays day).day < 100 := by
  obtain ⟨index, rest, date, bound, _⟩ := ofDays_spec day
  have small := lt_of_lt_monthLengths bound
  rw [date]
  exact ⟨by simp only; omega, by simp only; omega⟩

end Date

end Paydesk
