/-
**Dates and the units of the calendar.**

Every period divides time into units: years, months, weeks from Monday to Sunday, days or hours. A
unit lasts until the next one starts, so every instant lies in exactly one. The date that a report
gives to an instant is the date of that unit, and dates compare as the units do.

* `Period.start`, `Period.Covers`: where a unit starts, and what lies in it;
* `Period.start_mono`, `Period.Covers.le_of_le`: units follow one another;
* `Period.covers_unitOf`: **every instant lies in a unit**;
* `PointDate.ofInstant_eq`: a date is read off the unit;
* `PointDate.order_ofUnit`: **dates compare as units**;
* `dates_follow_units`: equal dates, later dates and what lies between two instants of one date.
-/

import Mathlib.Order.Monotone.Basic
import Paydesk.Proofs.Time.Days
import Paydesk.Report.Period

namespace Paydesk

/-! ### Years and months -/

theorem yearStart_lt_succ (year : Int) : yearStart year < yearStart (year + 1) := by
  unfold yearStart
  omega

/-- The first day of a month, months counted from the start of the year 0. -/
def monthStart (month : Int) : Int := Date.toDays ⟨month / 12, (month % 12).toNat + 1, 1⟩

theorem length_monthLengths (year : Int) : (monthLengths year).length = 12 := rfl

/-- No month is without days. -/
theorem monthLengths_pos (year : Int) {index : Nat} (inside : index < 12) :
    0 < (monthLengths year)[index]?.getD 0 := by
  have bound : index < (monthLengths year).length := inside
  have days : ∀ length ∈ monthLengths year, 0 < length := by
    unfold monthLengths
    split <;> decide
  rw [List.getElem?_eq_getElem bound, Option.getD_some]
  exact days _ (List.getElem_mem bound)

/-- The months of a year start one after another. -/
theorem monthStart_place (year : Int) {index : Nat} (inside : index < 12) :
    monthStart (12 * year + index)
      = yearStart year + (((monthLengths year).take index).sum : Nat) := by
  have year_eq : (12 * year + index) / 12 = year := by omega
  have index_eq : ((12 * year + index) % 12).toNat = index := by omega
  unfold monthStart Date.toDays
  rw [year_eq, index_eq, ← List.sum_eq_foldl, Nat.add_sub_cancel]
  simp

/-- A month starts where the one before it ends; after the last of a year comes the first of the
next. -/
theorem monthStart_place_succ (year : Int) {index : Nat} (inside : index < 12) :
    monthStart (12 * year + index + 1)
      = monthStart (12 * year + index) + ((monthLengths year)[index]?.getD 0 : Nat) := by
  have upto := sum_take_succ (monthLengths year) index
  rw [monthStart_place year inside]
  by_cases last : index = 11
  · subst last
    have whole : (monthLengths year).take (11 + 1) = monthLengths year :=
      List.take_of_length_le (length_monthLengths year).le
    have next : 12 * year + (11 : Nat) + 1 = 12 * (year + 1) + (0 : Nat) := by omega
    have days := sum_monthLengths year
    rw [next, monthStart_place (year + 1) (by decide), List.take_zero, List.sum_nil]
    rw [whole] at upto
    omega
  · have next : 12 * year + (index : Int) + 1 = 12 * year + (index + 1 : Nat) := by omega
    rw [next, monthStart_place year (by omega)]
    omega

/-- Every month has its year and its place there. -/
theorem exists_place (month : Int) :
    ∃ (year : Int) (index : Nat), index < 12 ∧ month = 12 * year + index :=
  ⟨month / 12, (month % 12).toNat, by omega, by omega⟩

theorem monthStart_lt_succ (month : Int) : monthStart month < monthStart (month + 1) := by
  obtain ⟨year, index, inside, rfl⟩ := exists_place month
  have days := monthLengths_pos year inside
  rw [monthStart_place_succ year inside]
  omega

/-! ### Units -/

namespace Period

/-- The first second of a unit. Years have their numbers, months are counted from the start of the
year 0, days and hours from 1 January 1970. Weeks are counted by their Thursdays, of which that day
was one, and each starts on the Monday before. -/
def start : Period → Int → Int
  | .year, unit => yearStart unit * Instant.daySeconds
  | .month, unit => monthStart unit * Instant.daySeconds
  | .week, unit => (7 * unit - weekday (7 * unit)) * Instant.daySeconds
  | .day, unit => unit * Instant.daySeconds
  | .hour, unit => unit * 3600

/-- An instant lies in a unit, before the next one starts. -/
def Covers (period : Period) (unit : Int) (instant : Instant) : Prop :=
  period.start unit ≤ instant.seconds ∧ instant.seconds < period.start (unit + 1)

instance (period : Period) (unit : Int) (instant : Instant) :
    Decidable (period.Covers unit instant) :=
  inferInstanceAs (Decidable (_ ∧ _))

/-- The unit that an instant lies in. -/
def unitOf (period : Period) (instant : Instant) : Int :=
  match period with
  | .year => instant.date.year
  | .month => 12 * instant.date.year + (instant.date.month - 1)
  | .week => (instant.day + 3) / 7
  | .day => instant.day
  | .hour => instant.seconds / 3600

variable {period : Period} {instant first second : Instant}

theorem start_lt_succ (period : Period) (unit : Int) :
    period.start unit < period.start (unit + 1) := by
  cases period with
  | year =>
    have later := yearStart_lt_succ unit
    simp only [start, Instant.daySeconds]
    omega
  | month =>
    have later := monthStart_lt_succ unit
    simp only [start, Instant.daySeconds]
    omega
  | week =>
    simp only [start, weekday, Instant.daySeconds]
    omega
  | day =>
    simp only [start, Instant.daySeconds]
    omega
  | hour =>
    simp only [start]
    omega

/-- Later units start later. -/
theorem start_mono (period : Period) {unit other : Int} (before : unit ≤ other) :
    period.start unit ≤ period.start other :=
  (strictMono_int_of_lt_succ period.start_lt_succ).monotone before

/-- **Every instant lies in a unit.** -/
theorem covers_unitOf (period : Period) (instant : Instant) :
    period.Covers (period.unitOf instant) instant := by
  cases period with
  | year =>
    have least := yearStart_yearOf_le instant.day
    have most := lt_yearStart_succ instant.day
    simp only [Covers, start, unitOf, Instant.date, Date.ofDays, Instant.day, Instant.daySeconds]
      at least most ⊢
    omega
  | month =>
    obtain ⟨index, rest, date, inside, place⟩ := Date.ofDays_spec instant.day
    have twelve := (Date.lt_of_lt_monthLengths inside).1
    have unit_eq : month.unitOf instant = 12 * yearOf instant.day + index := by
      simp only [unitOf, Instant.date, date]
      omega
    rw [unit_eq]
    simp only [Covers, start, monthStart_place_succ _ twelve, monthStart_place _ twelve]
    simp only [Instant.day, Instant.daySeconds] at place inside ⊢
    omega
  | week =>
    simp only [Covers, start, unitOf, weekday, Instant.day, Instant.daySeconds]
    omega
  | day =>
    simp only [Covers, start, unitOf, Instant.day, Instant.daySeconds]
    omega
  | hour =>
    simp only [Covers, start, unitOf]
    omega

/-- A unit does not start before one that covers an earlier instant. -/
theorem Covers.le_of_le {unit other : Int} (covers : period.Covers unit first)
    (covers_other : period.Covers other second) (before : first.seconds ≤ second.seconds) :
    unit ≤ other := by
  have apart : period.start unit < period.start (other + 1) := by
    calc period.start unit ≤ first.seconds := covers.1
      _ ≤ second.seconds := before
      _ < period.start (other + 1) := covers_other.2
  by_contra later
  exact absurd apart (not_lt.mpr (period.start_mono (by omega)))

/-- No instant lies in two units. -/
theorem Covers.eq_unitOf {unit : Int} (covers : period.Covers unit instant) :
    unit = period.unitOf instant :=
  Int.le_antisymm (covers.le_of_le (period.covers_unitOf instant) le_rfl)
    ((period.covers_unitOf instant).le_of_le covers le_rfl)

end Period

/-! ### The date of a unit -/

namespace PointDate

/-- The date of a unit. A week has the year and the number of its Thursday. -/
def ofUnit : Period → Int → PointDate
  | .year, unit => { year := unit }
  | .month, unit => { year := unit / 12, month := some ((unit % 12).toNat + 1) }
  | .week, unit => { year := (weekOf (7 * unit)).1, week := some (weekOf (7 * unit)).2 }
  | .day, unit =>
    let date := Date.ofDays unit
    { year := date.year, month := some date.month, day := some date.day }
  | .hour, unit =>
    let date := Date.ofDays (unit / 24)
    { year := date.year, month := some date.month, day := some date.day
      hour := some (unit % 24).toNat }

/-- The days of a week share the Thursday. -/
theorem weekOf_eq (day : Int) : weekOf day = weekOf (7 * ((day + 3) / 7)) := by
  have thursday : day - weekday day = 7 * ((day + 3) / 7) - weekday (7 * ((day + 3) / 7)) := by
    unfold weekday
    omega
  unfold weekOf
  rw [thursday]

/-- **The date of an instant is that of its unit.** -/
theorem ofInstant_eq (period : Period) (instant : Instant) :
    ofInstant period instant = ofUnit period (period.unitOf instant) := by
  cases period with
  | year => rfl
  | month =>
    obtain ⟨index, rest, date, inside, -⟩ := Date.ofDays_spec instant.day
    have twelve := (Date.lt_of_lt_monthLengths inside).1
    simp only [ofInstant, ofUnit, Period.unitOf, Instant.date, date, mk.injEq, Option.some.injEq,
      and_true]
    omega
  | week =>
    simp only [ofInstant, ofUnit, Period.unitOf]
    rw [← weekOf_eq]
  | day => rfl
  | hour =>
    have day_eq : instant.seconds / 3600 / 24 = instant.day := by
      unfold Instant.day Instant.daySeconds
      omega
    have hour_eq : (instant.seconds / 3600 % 24).toNat = instant.hour := by
      unfold Instant.hour Instant.secondOfDay Instant.daySeconds
      omega
    simp only [ofInstant, ofUnit, Period.unitOf, day_eq, hour_eq, Instant.date]

/-! ### The order of dates -/

instance : Std.TransCmp order := inferInstanceAs (Std.TransOrd PointDate)

/-- A date comes before another by the first part in which they differ. -/
theorem order_lt_iff {first second : PointDate} : order first second = .lt ↔
    first.year < second.year ∨ first.year = second.year ∧
      (rank first.month < rank second.month ∨ rank first.month = rank second.month ∧
        (rank first.week < rank second.week ∨ rank first.week = rank second.week ∧
          (rank first.day < rank second.day ∨ rank first.day = rank second.day ∧
            rank first.hour < rank second.hour))) := by
  simp only [order, compareLex, compareOn, Ordering.then_eq_lt, compare_lt_iff_lt,
    compare_eq_iff_eq]

theorem weekOf_lt {first second : Int} (before : first < second) :
    (weekOf (7 * first)).1 < (weekOf (7 * second)).1
      ∨ (weekOf (7 * first)).1 = (weekOf (7 * second)).1
        ∧ (weekOf (7 * first)).2 < (weekOf (7 * second)).2 := by
  have thursday (unit : Int) : 7 * unit - weekday (7 * unit) + 3 = 7 * unit := by
    unfold weekday
    omega
  have years : yearOf (7 * first) ≤ yearOf (7 * second) := yearOf_mono (by omega)
  have least := yearStart_yearOf_le (7 * first)
  unfold weekOf
  simp only [thursday]
  by_cases same : yearOf (7 * first) = yearOf (7 * second)
  · right
    rw [← same]
    omega
  · left
    omega

theorem ofDays_lt {first second : Int} (before : first < second) :
    (Date.ofDays first).year < (Date.ofDays second).year
      ∨ (Date.ofDays first).year = (Date.ofDays second).year ∧
        ((Date.ofDays first).month < (Date.ofDays second).month
          ∨ (Date.ofDays first).month = (Date.ofDays second).month
            ∧ (Date.ofDays first).day < (Date.ofDays second).day) := by
  have earlier := Date.order_ofDays_of_lt before
  simp only [Date.order, compareLex, compareOn, Ordering.then_eq_lt, compare_lt_iff_lt,
    compare_eq_iff_eq] at earlier
  exact earlier

theorem order_ofUnit_of_lt {period : Period} {first second : Int} (before : first < second) :
    order (ofUnit period first) (ofUnit period second) = .lt := by
  rw [order_lt_iff]
  cases period with
  | year => exact Or.inl before
  | month =>
    simp only [ofUnit, rank, true_and]
    omega
  | week =>
    have weeks := weekOf_lt before
    simp only [ofUnit, rank, true_and]
    omega
  | day =>
    have dates := ofDays_lt before
    simp only [ofUnit, rank, true_and]
    omega
  | hour =>
    simp only [ofUnit, rank, true_and]
    by_cases same : first / 24 = second / 24
    · rw [same]
      omega
    · have dates := ofDays_lt (show first / 24 < second / 24 by omega)
      omega

/-- **Dates compare as units.** -/
theorem order_ofUnit (period : Period) (first second : Int) :
    order (ofUnit period first) (ofUnit period second) = compare first second :=
  order_eq_compare order_ofUnit_of_lt first second

theorem order_ofInstant (period : Period) (first second : Instant) :
    order (ofInstant period first) (ofInstant period second)
      = compare (period.unitOf first) (period.unitOf second) := by
  rw [ofInstant_eq, ofInstant_eq, order_ofUnit]

theorem ofInstant_eq_iff {period : Period} {first second : Instant} :
    ofInstant period first = ofInstant period second
      ↔ period.unitOf first = period.unitOf second := by
  constructor
  · intro same
    have equal := order_ofInstant period first second
    rw [same, order_ofInstant, compare_eq_iff_eq.mpr rfl] at equal
    exact compare_eq_iff_eq.mp equal.symm
  · intro same
    rw [ofInstant_eq, ofInstant_eq, same]

end PointDate

/-! ### The calendar -/

/-- **Dates follow the units of the calendar.** For every period and all instants:

* an instant lies in exactly one year, month, week from Monday to Sunday, day or hour;
* two instants have one date if and only if one unit covers both;
* an instant that is no earlier has no earlier date;
* an earlier date stands for earlier instants;
* what lies between two instants of one date has that date as well. -/
theorem dates_follow_units (period : Period) (first second : Instant) :
    (∃! unit, period.Covers unit first)
    ∧ (PointDate.ofInstant period first = PointDate.ofInstant period second ↔
        ∃ unit, period.Covers unit first ∧ period.Covers unit second)
    ∧ (first.atMost second →
        (compare (PointDate.ofInstant period first) (PointDate.ofInstant period second)).isLE)
    ∧ (compare (PointDate.ofInstant period first) (PointDate.ofInstant period second) = .lt →
        first.seconds < second.seconds)
    ∧ ∀ between : Instant, first.atMost between → between.atMost second →
        PointDate.ofInstant period first = PointDate.ofInstant period second →
          PointDate.ofInstant period between = PointDate.ofInstant period first := by
  have rises {earlier later : Instant} (before : earlier.seconds ≤ later.seconds) :
      period.unitOf earlier ≤ period.unitOf later :=
    (period.covers_unitOf earlier).le_of_le (period.covers_unitOf later) before
  have seconds_le {earlier later : Instant} (before : earlier.atMost later) :
      earlier.seconds ≤ later.seconds := by
    rcases Instant.atMost_iff_seconds.mp before with less | ⟨same, -⟩
    · exact less.le
    · exact same.le
  refine ⟨⟨_, period.covers_unitOf first, fun unit covers => covers.eq_unitOf⟩, ?_, ?_, ?_, ?_⟩
  · rw [PointDate.ofInstant_eq_iff]
    constructor
    · intro same
      refine ⟨_, period.covers_unitOf first, ?_⟩
      rw [same]
      exact period.covers_unitOf second
    · rintro ⟨unit, covers, covers_second⟩
      exact covers.eq_unitOf.symm.trans covers_second.eq_unitOf
  · intro before
    show (PointDate.order _ _).isLE
    rw [PointDate.order_ofInstant, Std.isLE_compare]
    exact rises (seconds_le before)
  · intro earlier
    by_contra later
    have units : compare (period.unitOf first) (period.unitOf second) = .lt := by
      rw [← PointDate.order_ofInstant]
      exact earlier
    exact absurd (compare_lt_iff_lt.mp units) (not_lt.mpr (rises (not_lt.mp later)))
  · intro between after before same
    rw [PointDate.ofInstant_eq_iff] at same ⊢
    apply le_antisymm
    · rw [same]
      exact rises (seconds_le before)
    · exact rises (seconds_le after)

/-- The week from Monday, 30 December 2024, to Sunday, 5 January 2025: its days lie in two years and
have the date of the first week of 2025. -/
theorem dates_follow_units_newYear :
    let monday := Instant.ofSeconds (20087 * 86400)
    let newYear := Instant.ofSeconds (20089 * 86400)
    let sunday := Instant.ofSeconds (20094 * 86400 - 1)
    let next := Instant.ofSeconds (20094 * 86400)
    PointDate.ofInstant .week monday = { year := 2025, week := some 1 }
      ∧ PointDate.ofInstant .week monday = PointDate.ofInstant .week sunday
      ∧ PointDate.ofInstant .week newYear = PointDate.ofInstant .week monday
      ∧ (compare (PointDate.ofInstant .week sunday) (PointDate.ofInstant .week next)).isLE
      ∧ sunday.seconds < next.seconds := by
  intro monday newYear sunday next
  obtain ⟨-, same, -, -, between⟩ := dates_follow_units .week monday sunday
  obtain ⟨-, -, rises, earlier, -⟩ := dates_follow_units .week sunday next
  have together : PointDate.ofInstant .week monday = PointDate.ofInstant .week sunday :=
    same.mpr ⟨2870, by decide +kernel, by decide +kernel⟩
  refine ⟨by decide +kernel, together, ?_, ?_, ?_⟩
  · exact between newYear (by decide) (by decide) together
  · exact rises (by decide)
  · exact earlier (by decide +kernel)

end Paydesk
