/-
**Times in whole milliseconds.**

A column of times holds whole milliseconds. What they name is an instant again: fractions of a
millisecond are gone, and a leap second has become the second after it. Two such instants compare
as their milliseconds do.

* `Std.TransOrd Instant`, `Std.LawfulEqOrd Instant`: the order of instants is total and tells apart
  all that differ;
* `Instant.inMillis`: the instant that an instant's milliseconds name;
* `Instant.order_inMillis`: **these instants compare as the milliseconds**;
* `Instant.inMillis_of_isWhole`: an instant without fractions of a millisecond stays what it is.
-/

import Mathlib.Algebra.Order.Ring.Int
import Mathlib.Order.Compare
import Paydesk.Time.Instant

namespace Paydesk

instance : Std.TransOrd Instant :=
  inferInstanceAs (Std.TransCmp (compareLex (compareOn Instant.seconds) (compareOn Instant.nanos)))

namespace Instant

instance : Std.LawfulEqOrd Instant where
  eq_of_compare {first second} tie := by
    have parts : first.order second = .eq := tie
    rw [order, Ordering.then_eq_eq] at parts
    have seconds := Std.LawfulEqCmp.eq_of_compare parts.1
    have nanos := Std.LawfulEqCmp.eq_of_compare parts.2
    cases first
    cases second
    simp only at seconds nanos
    simp only [seconds, nanos]

theorem order_eq_eq_iff {first second : Instant} : first.order second = .eq ↔ first = second := by
  change compare first second = .eq ↔ first = second
  exact Std.LawfulEqCmp.compare_eq_iff_eq

theorem atMost_iff {first second : Instant} :
    first.atMost second ↔ (compare first second).isLE := by
  change (first.order second != .gt) = true ↔ (first.order second).isLE = true
  cases first.order second <;> decide

theorem atMost_refl (instant : Instant) : instant.atMost instant :=
  atMost_iff.mpr Std.ReflCmp.isLE_rfl

theorem atMost_trans {first second third : Instant} (lower : first.atMost second)
    (upper : second.atMost third) : first.atMost third :=
  atMost_iff.mpr (Std.TransCmp.isLE_trans (atMost_iff.mp lower) (atMost_iff.mp upper))

/-- Of two instants one is no later than the other. -/
theorem atMost_of_not {first second : Instant} (past : ¬first.atMost second) :
    second.atMost first := by
  rw [atMost_iff] at past ⊢
  rw [Std.OrientedOrd.eq_swap]
  cases order : compare first second <;> simp_all

/-- An instant with the fractions of a millisecond cut off. -/
def cutMillis (instant : Instant) : Instant :=
  { instant with
    nanos := instant.nanos / 1000000 * 1000000
    nanos_lt := Nat.lt_of_le_of_lt (Nat.div_mul_le_self _ _) instant.nanos_lt
    leap_last := fun leap => instant.leap_last (Nat.le_trans leap (Nat.div_mul_le_self _ _)) }

/-- The instant that an instant's whole milliseconds name; a leap second after which the calendar
ends has no other name. -/
def inMillis (instant : Instant) : Instant := (ofMillis? instant.toMillis).getD instant.cutMillis

/-- A whole number of milliseconds, in no leap second but one after which the calendar ends. -/
structure IsNamed (instant : Instant) : Prop where
  whole : instant.nanos % 1000000 = 0
  leap : 1000000000 ≤ instant.nanos → instant.seconds + 1 = endSeconds

/-- A whole number of milliseconds and no leap second. -/
structure IsWhole (instant : Instant) : Prop where
  whole : instant.nanos % 1000000 = 0
  common : instant.nanos < 1000000000

theorem lt_endSeconds (instant : Instant) : instant.seconds < endSeconds :=
  (inRange_iff.mp instant.inside).2

theorem toMillis_of_ofMillis? {millis : Int} {named : Instant} (found : ofMillis? millis = some named) :
    named.toMillis = millis := by
  unfold ofMillis? at found
  split at found
  · cases found
    unfold toMillis
    simp only
    omega
  · nomatch found

theorem isNamed_of_ofMillis? {millis : Int} {named : Instant}
    (found : ofMillis? millis = some named) : named.IsNamed := by
  unfold ofMillis? at found
  split at found
  · cases found
    exact ⟨by simp only; omega, fun leap => by simp only at leap; omega⟩
  · nomatch found

theorem isNamed_of_ofSeconds? {seconds : Int} {named : Instant}
    (found : ofSeconds? seconds = some named) : named.IsNamed := by
  unfold ofSeconds? at found
  split at found
  · cases found
    exact ⟨rfl, fun leap => absurd leap (by simp [ofSeconds])⟩
  · nomatch found

/-- Milliseconds that name nothing belong to a leap second after which the calendar ends. -/
theorem seconds_of_ofMillis?_eq_none {instant : Instant}
    (unnamed : ofMillis? instant.toMillis = none) : instant.seconds + 1 = endSeconds := by
  unfold ofMillis? at unnamed
  split at unnamed
  · nomatch unnamed
  · rename_i outside
    rw [inRange_iff] at outside
    have inside := inRange_iff.mp instant.inside
    have small := instant.nanos_lt
    unfold toMillis at outside
    unfold endSeconds daySeconds
    omega

theorem toMillis_inMillis (instant : Instant) : instant.inMillis.toMillis = instant.toMillis := by
  unfold inMillis
  cases found : ofMillis? instant.toMillis with
  | some named => exact toMillis_of_ofMillis? found
  | none =>
    unfold toMillis cutMillis
    simp only [Option.getD_none, Nat.mul_div_cancel _ (by decide : 0 < 1000000)]

theorem isNamed_inMillis (instant : Instant) : instant.inMillis.IsNamed := by
  unfold inMillis
  cases found : ofMillis? instant.toMillis with
  | some named => exact isNamed_of_ofMillis? found
  | none =>
    have last := seconds_of_ofMillis?_eq_none found
    exact ⟨Nat.mul_mod_left _ _, fun _ => last⟩

/-- Instants that milliseconds name compare as the milliseconds. -/
theorem order_eq_compare {first second : Instant} (left : first.IsNamed) (right : second.IsNamed) :
    first.order second = compare first.toMillis second.toMillis := by
  have first_end := first.lt_endSeconds
  have second_end := second.lt_endSeconds
  obtain ⟨whole_first, leap_first⟩ := left
  obtain ⟨whole_second, leap_second⟩ := right
  have less_of_seconds {early late : Instant} (leap : 1000000000 ≤ early.nanos →
      early.seconds + 1 = endSeconds) (before : early.seconds < late.seconds) :
      early.toMillis < late.toMillis := by
    have late_end := late.lt_endSeconds
    unfold toMillis
    omega
  unfold order
  rcases lt_trichotomy first.seconds second.seconds with before | same | after
  · rw [compare_lt_iff_lt.mpr before, Ordering.lt_then]
    exact (compare_lt_iff_lt.mpr (less_of_seconds leap_first before)).symm
  · rw [compare_eq_iff_eq.mpr same, Ordering.eq_then]
    rcases lt_trichotomy first.nanos second.nanos with less | equal | more
    · rw [compare_lt_iff_lt.mpr less]
      exact (compare_lt_iff_lt.mpr (by unfold toMillis; omega)).symm
    · rw [compare_eq_iff_eq.mpr equal]
      exact (compare_eq_iff_eq.mpr (by unfold toMillis; rw [same, equal])).symm
    · rw [compare_gt_iff_gt.mpr more]
      exact (compare_gt_iff_gt.mpr (by unfold toMillis; omega)).symm
  · rw [compare_gt_iff_gt.mpr after, Ordering.gt_then]
    exact (compare_gt_iff_gt.mpr (less_of_seconds leap_second after)).symm

/-- **Instants in milliseconds compare as their milliseconds.** -/
theorem order_inMillis (first second : Instant) :
    first.inMillis.order second.inMillis = compare first.toMillis second.toMillis := by
  rw [order_eq_compare first.isNamed_inMillis second.isNamed_inMillis, toMillis_inMillis,
    toMillis_inMillis]

/-- The instant of whole milliseconds is read back from them. -/
theorem ofMillis?_toMillis {instant : Instant} (whole : instant.IsWhole) :
    ofMillis? instant.toMillis = some instant := by
  have seconds : instant.toMillis / 1000 = instant.seconds := by
    have common := whole.common
    unfold toMillis
    omega
  have nanos : (instant.toMillis % 1000).toNat * 1000000 = instant.nanos := by
    have common := whole.common
    have exact_millis := whole.whole
    unfold toMillis
    omega
  unfold ofMillis?
  rw [dif_pos (seconds ▸ instant.inside)]
  cases instant with
  | mk known part inside small leap =>
    simp only at seconds nanos
    simp only [seconds, nanos]

/-- The milliseconds of an instant in no leap second name one in the same second. -/
theorem ofMillis?_of_common {instant : Instant} (common : instant.nanos < 1000000000) :
    ofMillis? instant.toMillis = some instant.inMillis
      ∧ instant.inMillis.seconds = instant.seconds := by
  have seconds : instant.toMillis / 1000 = instant.seconds := by
    unfold toMillis
    omega
  have named : ∃ other, ofMillis? instant.toMillis = some other ∧ other.seconds = instant.seconds := by
    unfold ofMillis?
    rw [dif_pos (seconds ▸ instant.inside)]
    exact ⟨_, rfl, seconds⟩
  obtain ⟨other, found, same⟩ := named
  have equal : instant.inMillis = other := by rw [inMillis, found, Option.getD_some]
  exact ⟨equal ▸ found, equal ▸ same⟩

theorem inMillis_of_isWhole {instant : Instant} (whole : instant.IsWhole) :
    instant.inMillis = instant := by
  rw [inMillis, ofMillis?_toMillis whole, Option.getD_some]

end Instant

end Paydesk
