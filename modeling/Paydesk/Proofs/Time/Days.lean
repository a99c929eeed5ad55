/-
**Whole days.**

Days come in the order of their dates. An instant lies no earlier than the first second of a day if
its own day is no earlier; but the last second of a day is followed by what is left of it, so an
instant of that day may still be later than its last whole second.

* `order_eq_compare`: an order that ascends with a number;
* `Date.order_ofDays`: **dates compare as their days**;
* `Instant.IsLate`: an instant after the last whole second of its day;
* `Instant.dayStart_atMost_iff`, `Instant.atMost_dayEnd_iff`: the two ends of a day.
-/

import Mathlib.Algebra.Order.BigOperators.Group.List
import Mathlib.Algebra.Order.Ring.Nat
import Paydesk.Proofs.Time.Calendar
import Paydesk.Proofs.Time.Millis

namespace Paydesk

/-! ### Dates -/

/-- Later years start later. -/
theorem yearStart_mono {first second : Int} (before : first ≤ second) :
    yearStart first ≤ yearStart second := by
  unfold yearStart
  omega

/-- Later days lie in later years or in the same. -/
theorem yearOf_mono {first second : Int} (before : first ≤ second) :
    yearOf first ≤ yearOf second := by
  by_contra later
  have least := yearStart_yearOf_le first
  have most := lt_yearStart_succ second
  have starts : yearStart (yearOf second + 1) ≤ yearStart (yearOf first) :=
    yearStart_mono (by omega)
  omega

/-- The lengths up to an index and the length there. -/
theorem sum_take_succ (lengths : List Nat) (index : Nat) :
    (lengths.take (index + 1)).sum = (lengths.take index).sum + lengths[index]?.getD 0 := by
  rw [List.take_add_one, List.sum_append]
  cases lengths[index]? <;> simp

/-- The place among lists one after another is determined by which list it lies in, and then by the
place in that list. -/
theorem place_lt {lengths : List Nat} {index other rest more : Nat}
    (inside : more < lengths[other]?.getD 0)
    (before : (lengths.take index).sum + rest < (lengths.take other).sum + more) :
    index < other ∨ index = other ∧ rest < more := by
  rcases Nat.lt_trichotomy index other with less | rfl | past
  · exact Or.inl less
  · exact Or.inr ⟨rfl, by omega⟩
  · have upto := sum_take_succ lengths other
    have further : (lengths.take (other + 1)).sum ≤ (lengths.take index).sum :=
      (List.take_prefix_take_left past).sublist.sum_le_sum fun _ _ => Nat.zero_le _
    omega

/-- An order that ascends with a number compares as the numbers do. -/
theorem order_eq_compare {α : Type} {order : α → α → Ordering} [Std.TransCmp order]
    {place : Int → α}
    (ascends : ∀ {first second}, first < second → order (place first) (place second) = .lt)
    (first second : Int) : order (place first) (place second) = compare first second := by
  rcases lt_trichotomy first second with before | rfl | after
  · rw [ascends before, compare_lt_iff_lt.mpr before]
  · rw [compare_eq_iff_eq.mpr rfl]
    exact Std.ReflCmp.compare_self
  · have swapped : order (place first) (place second)
        = (order (place second) (place first)).swap := Std.OrientedCmp.eq_swap
    rw [swapped, ascends after, compare_gt_iff_gt.mpr after]
    rfl

namespace Date

/-- The order of dates: by year, by month and by day. -/
def order : Date → Date → Ordering :=
  compareLex (compareOn year) (compareLex (compareOn month) (compareOn day))

instance : Std.TransCmp order := by
  unfold order
  infer_instance

theorem order_ofDays_of_lt {first second : Int} (before : first < second) :
    (ofDays first).order (ofDays second) = .lt := by
  obtain ⟨index, rest, date, -, place⟩ := ofDays_spec first
  obtain ⟨other, more, date_other, inside, place_other⟩ := ofDays_spec second
  rw [date, date_other]
  unfold order compareLex compareOn
  simp only
  rcases (yearOf_mono before.le).lt_or_eq with years | years
  · rw [compare_lt_iff_lt.mpr years, Ordering.lt_then]
  · rw [years] at place ⊢
    rw [compare_eq_iff_eq.mpr rfl, Ordering.eq_then]
    have places : ((monthLengths (yearOf second)).take index).sum + rest
        < ((monthLengths (yearOf second)).take other).sum + more := by
      omega
    rcases place_lt inside places with months | ⟨rfl, days⟩
    · rw [compare_lt_iff_lt.mpr (by omega), Ordering.lt_then]
    · rw [compare_eq_iff_eq.mpr rfl, Ordering.eq_then, compare_lt_iff_lt.mpr (by omega)]

/-- **Dates compare as their days.** -/
theorem order_ofDays (first second : Int) :
    (ofDays first).order (ofDays second) = compare first second :=
  order_eq_compare order_ofDays_of_lt first second

end Date

namespace Instant

theorem date_order (first second : Instant) :
    first.date.order second.date = compare first.day second.day :=
  Date.order_ofDays _ _

/-- Two instants fall on one date if they lie on one day. -/
theorem date_eq_iff {first second : Instant} : first.date = second.date ↔ first.day = second.day :=
  (Function.LeftInverse.injective Date.toDays_ofDays).eq_iff

/-! ### The ends of a day -/

/-- Instants come by their seconds and then by their fractions. -/
theorem atMost_iff_seconds {first second : Instant} :
    first.atMost second ↔ first.seconds < second.seconds
      ∨ first.seconds = second.seconds ∧ first.nanos ≤ second.nanos := by
  rw [atMost_iff]
  change ((compare first.seconds second.seconds).then (compare first.nanos second.nanos)).isLE ↔ _
  rcases lt_trichotomy first.seconds second.seconds with before | same | after
  · rw [compare_lt_iff_lt.mpr before]
    simp [before]
  · rw [compare_eq_iff_eq.mpr same, Ordering.eq_then, Nat.isLE_compare]
    simp [same]
  · rw [compare_gt_iff_gt.mpr after, Ordering.gt_then]
    simp only [Ordering.isLE_gt, Bool.false_eq_true, false_iff]
    omega

/-- Whether an instant lies after the last whole second of its day: in that second with a fraction,
or in the leap second that follows it. -/
def IsLate (instant : Instant) : Prop :=
  (instant.secondOfDay : Int) + 1 = daySeconds ∧ 0 < instant.nanos

instance (instant : Instant) : Decidable instant.IsLate := inferInstanceAs (Decidable (_ ∧ _))

theorem day_dayEnd (instant : Instant) : instant.dayEnd.day = instant.day := by
  unfold dayEnd ofSeconds
  simp only [day, daySeconds]
  omega

/-- An instant is no earlier than the start of a day if its own day is no earlier. -/
theorem dayStart_atMost_iff {first instant : Instant} :
    first.dayStart.atMost instant ↔ first.day ≤ instant.day := by
  rw [atMost_iff_seconds]
  unfold dayStart ofSeconds
  simp only [day, daySeconds]
  omega

/-- An instant is no later than the end of a day if its own day is no later, and it is not late on
that day. -/
theorem atMost_dayEnd_iff {instant last : Instant} :
    instant.atMost last.dayEnd ↔
      instant.day ≤ last.day ∧ ¬(instant.day = last.day ∧ instant.IsLate) := by
  rw [atMost_iff_seconds]
  unfold dayEnd ofSeconds IsLate secondOfDay
  simp only [day, daySeconds]
  omega

end Instant

end Paydesk
