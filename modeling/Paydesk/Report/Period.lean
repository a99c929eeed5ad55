/-
**Reporting periods and their dates.**

A report lists one figure for each year, month, week, day or hour. A point date names the parts of
the calendar that its period needs; dates are ordered part by part, a missing part first.

* `Period.read`: a period by name;
* `PointDate.ofInstant`: the date that an instant falls on;
* `PointDate.display`: a date in text.
-/

import Paydesk.Json.Record

namespace Paydesk

/-- How long a time each figure of a report covers. -/
inductive Period where
  | year
  | month
  | week
  | day
  | hour
  deriving DecidableEq

namespace Period

/-- The name of a period. -/
def name : Period → String
  | year => "year"
  | month => "month"
  | week => "week"
  | day => "day"
  | hour => "hour"

def all : List Period := [year, month, week, day, hour]

/-- The period of a name in small letters. -/
def ofName? (name : String) : Option Period := all.find? fun period => period.name == name

/-- A text that is no period. -/
structure Unknown where
  text : String
  deriving DecidableEq

/-- The text of an error. -/
def Unknown.message (error : Unknown) : String := s!"Unknown revenue period: {error.text}"

/-- The period of a name, whatever the case of its letters and the white space around it. -/
def read (text : String) : Except Unknown Period :=
  match ofName? (Text.lowerCase (Text.trimBlank text)) with
  | some period => .ok period
  | none => .error ⟨text⟩

/-- The period of a document. -/
def read? (json : Json) : Option Period := Json.readName? json >>= ofName?

/-- The document of a period. -/
def write (period : Period) : Json := .text period.name

end Period

/-- The date of a figure. -/
structure PointDate where
  year : Int
  month : Option Nat := none
  week : Option Nat := none
  day : Option Nat := none
  hour : Option Nat := none
  deriving DecidableEq

namespace PointDate

/-- The date that an instant falls on. -/
def ofInstant (period : Period) (instant : Instant) : PointDate :=
  let date := instant.date
  match period with
  | .year => { year := date.year }
  | .month => { year := date.year, month := some date.month }
  | .week =>
    let (year, week) := weekOf instant.day
    { year, week := some week }
  | .day => { year := date.year, month := some date.month, day := some date.day }
  | .hour =>
    { year := date.year, month := some date.month, day := some date.day, hour := some instant.hour }

/-- The place of a part that may be missing. -/
def rank : Option Nat → Nat
  | none => 0
  | some part => part + 1

theorem rank_injective {first second : Option Nat} (same : rank first = rank second) :
    first = second := by
  cases first <;> cases second <;> simp_all [rank]

/-- The order of two dates, part by part. -/
def order : PointDate → PointDate → Ordering :=
  compareLex (compareOn year) (compareLex (compareOn fun date => rank date.month)
    (compareLex (compareOn fun date => rank date.week)
      (compareLex (compareOn fun date => rank date.day) (compareOn fun date => rank date.hour))))

instance : Ord PointDate := ⟨order⟩

instance : Std.TransOrd PointDate := by
  change Std.TransCmp order
  unfold order
  infer_instance

theorem order_eq {first second : PointDate} (same : order first second = .eq) :
    first = second := by
  simp only [order, compareLex, compareOn, Ordering.then_eq_eq,
    Std.LawfulEqCmp.compare_eq_iff_eq] at same
  obtain ⟨years, months, weeks, days, hours⟩ := same
  cases first
  cases second
  simp only at years months weeks days hours
  simp only [years, rank_injective months, rank_injective weeks, rank_injective days,
    rank_injective hours]

instance : Std.LawfulEqOrd PointDate where
  compare_self := Std.ReflCmp.compare_self
  eq_of_compare := order_eq

/-- A part in two digits after a mark, if it is there. -/
def displayPart (mark : String) : Option Nat → String
  | some part => mark ++ Text.paddedDigits 2 part
  | none => ""

/-- A date in text. -/
def display (date : PointDate) : String :=
  Text.writeInt date.year ++ displayPart "-" date.month ++ displayPart "-W" date.week
    ++ displayPart "-" date.day ++ displayPart "T" date.hour

/-- The date of a document. -/
def read? : Json → Option PointDate :=
  Json.readRecord? do
    let year ← Json.part "year" Json.readInt32?
    let month ← Json.trailingPart "month" Json.readNat32?
    let week ← Json.trailingPart "week" Json.readNat32?
    let day ← Json.trailingPart "day" Json.readNat32?
    let hour ← Json.trailingPart "hour" Json.readNat32?
    return { year, month, week, day, hour }

/-- The document of a natural number. -/
def writePart (part : Nat) : Json := .int part

/-- The document of a date. -/
def write (date : PointDate) : Json :=
  .object
    (("year", .int date.year) :: (Json.optionalField "month" writePart date.month
      ++ Json.optionalField "week" writePart date.week
      ++ Json.optionalField "day" writePart date.day
      ++ Json.optionalField "hour" writePart date.hour))

end PointDate

end Paydesk
