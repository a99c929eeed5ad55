/-
**The calendar.**

Days are counted from 1 January 1970. A year has the days that lie between its first day and that
of the next; months are laid off one after another inside it. A week runs from Monday to Sunday and
belongs to the year of its Thursday.

* `Date.ofDays`, `Date.toDays`: the date of a day and the day of a date;
* `weekday`: the days since Monday;
* `weekOf`: the year and number of a day's week;
* `Date.isValid`: whether a month has such a day.
-/

namespace Paydesk

/-- Days from 1 January of year 1 to 1 January 1970. -/
def epochOffset : Int := 719162

/-- Days from 1 January 1970 to the first day of a year. -/
def yearStart (year : Int) : Int :=
  365 * (year - 1) + (year - 1) / 4 - (year - 1) / 100 + (year - 1) / 400 - epochOffset

/-- The year that a day lies in. -/
def yearOf (day : Int) : Int :=
  let guess := 400 * (day + epochOffset) / 146097 + 1
  if day < yearStart guess then guess - 1
  else if yearStart (guess + 1) ≤ day then guess + 1
  else guess

def isLeapYear (year : Int) : Bool :=
  year % 4 == 0 && (year % 100 != 0 || year % 400 == 0)

/-- The lengths of the months of a year. -/
def monthLengths (year : Int) : List Nat :=
  [31, if isLeapYear year then 29 else 28, 31, 30, 31, 30, 31, 31, 30, 31, 30, 31]

/-- The month and day that lie so many days after the first day of a given month. -/
def locate (month : Nat) : List Nat → Nat → Nat × Nat
  | [], rest => (month, rest + 1)
  | length :: lengths, rest =>
    if rest < length then (month, rest + 1) else locate (month + 1) lengths (rest - length)

/-- A date of the calendar. -/
structure Date where
  year : Int
  month : Nat
  day : Nat
  deriving DecidableEq

namespace Date

/-- The date of a day. -/
def ofDays (day : Int) : Date :=
  let year := yearOf day
  let (month, dayOfMonth) := locate 1 (monthLengths year) (day - yearStart year).toNat
  ⟨year, month, dayOfMonth⟩

/-- The day of a date. -/
def toDays (date : Date) : Int :=
  yearStart date.year
    + (((monthLengths date.year).take (date.month - 1)).foldl (· + ·) 0 : Nat)
    + ((date.day : Int) - 1)

/-- Whether a date's month has its day. -/
def isValid (date : Date) : Bool :=
  1 ≤ date.month && 1 ≤ date.day
    && decide (date.day ≤ (monthLengths date.year)[date.month - 1]?.getD 0)

end Date

/-- The days since Monday. -/
def weekday (day : Int) : Int := (day + 3) % 7

/-- The year and number of the week that a day lies in. -/
def weekOf (day : Int) : Int × Nat :=
  let thursday := day - weekday day + 3
  let year := yearOf thursday
  (year, ((thursday - yearStart year) / 7 + 1).toNat)

end Paydesk
