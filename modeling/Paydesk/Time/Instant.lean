/-
**Instants.**

An instant is a number of seconds since 1 January 1970 and a part of a second in nanoseconds. The
part may reach into a second more: that is how a leap second is told from the one after it.

* `Instant.ofMillis?`, `Instant.toMillis`: instants in milliseconds, fractions cut off;
* `Instant.dayStart`, `Instant.dayEnd`: the first and the last whole second of a day;
* `Instant.date`, `Instant.hour`: the calendar's view.
-/

import Paydesk.Time.Calendar

namespace Paydesk

namespace Instant

/-- Seconds of a day. -/
def daySeconds : Int := 86400

/-- The first second of the calendar's first year. -/
def minSeconds : Int := yearStart (-262143) * daySeconds

/-- The second after the calendar's last year. -/
def endSeconds : Int := yearStart 262143 * daySeconds

/-- Whether the calendar has a place for a second. -/
def inRange (seconds : Int) : Bool := minSeconds ≤ seconds && seconds < endSeconds

theorem inRange_iff {seconds : Int} :
    inRange seconds ↔ yearStart (-262143) * 86400 ≤ seconds ∧ seconds < yearStart 262143 * 86400 := by
  unfold inRange
  rw [Bool.and_eq_true, decide_eq_true_iff, decide_eq_true_iff]
  rfl

/-- The first second of a day that the calendar has a place for. -/
theorem inRange_dayStart {seconds : Int} (inside : inRange seconds) :
    inRange (seconds / daySeconds * daySeconds) := by
  rw [inRange_iff] at inside ⊢
  unfold daySeconds
  omega

/-- The last second of a day that the calendar has a place for. -/
theorem inRange_dayEnd {seconds : Int} (inside : inRange seconds) :
    inRange (seconds / daySeconds * daySeconds + (daySeconds - 1)) := by
  rw [inRange_iff] at inside ⊢
  unfold daySeconds
  omega

end Instant

/-- A point in time that the calendar has a place for. -/
structure Instant where
  seconds : Int
  nanos : Nat
  inside : Instant.inRange seconds
  nanos_lt : nanos < 2000000000
  /-- A leap second is the last one of its minute. -/
  leap_last : 1000000000 ≤ nanos → seconds % 60 = 59
  deriving DecidableEq

namespace Instant

/-- A whole second that the calendar has a place for. -/
def ofSeconds (seconds : Int) (inside : inRange seconds := by decide) : Instant :=
  ⟨seconds, 0, inside, by decide, by omega⟩

/-- The second from which others are counted. -/
def epoch : Instant := ofSeconds 0

instance : Inhabited Instant := ⟨epoch⟩

/-- A whole second, if the calendar has a place for it. -/
def ofSeconds? (seconds : Int) : Option Instant :=
  if inside : inRange seconds then some (ofSeconds seconds inside) else none

/-- An instant given in milliseconds, if the calendar has a place for it. -/
def ofMillis? (millis : Int) : Option Instant :=
  if inside : inRange (millis / 1000) then
    some ⟨millis / 1000, (millis % 1000).toNat * 1000000, inside, by omega, by omega⟩
  else none

/-- Whole milliseconds since 1970. -/
def toMillis (instant : Instant) : Int :=
  instant.seconds * 1000 + (instant.nanos / 1000000 : Nat)

/-- The order of two instants. -/
def order (first second : Instant) : Ordering :=
  (compare first.seconds second.seconds).then (compare first.nanos second.nanos)

instance : Ord Instant := ⟨order⟩

/-- Whether one instant is no later than another. -/
def atMost (first second : Instant) : Bool := first.order second != .gt

/-- The day since 1970. -/
def day (instant : Instant) : Int := instant.seconds / daySeconds

/-- The second of the day. -/
def secondOfDay (instant : Instant) : Nat := (instant.seconds % daySeconds).toNat

def date (instant : Instant) : Date := .ofDays instant.day

def hour (instant : Instant) : Nat := instant.secondOfDay / 3600

/-- The first second of a day. -/
def dayStart (instant : Instant) : Instant :=
  ofSeconds (instant.day * daySeconds) (inRange_dayStart instant.inside)

/-- The last second of a day. -/
def dayEnd (instant : Instant) : Instant :=
  ofSeconds (instant.day * daySeconds + (daySeconds - 1)) (inRange_dayEnd instant.inside)

end Instant

end Paydesk
