/-
**Times read back.**

A time is written with every digit of its parts, so a reader takes each part whole: the year up to
the first dash, two digits for every other part, and the fraction up to the offset.

* `readNumber?_run`: a run of digits of at most so many;
* `readYear?_write`, `readDate?_write`: years of any length, and dates;
* `readFraction?_write`, `readClock?_write`: fractions of a second, and times of day;
* `Instant.read?_write`: **a time is read back from its text**, leap seconds too.
-/

import Paydesk.Proofs.Text.Digits
import Paydesk.Proofs.Time.Calendar
import Paydesk.Time.Rfc3339

namespace Paydesk.Instant

open Text (Stops digits padZeros paddedDigits isDigit)

/-! ### Numbers -/

theorem not_isBlank_of_isDigit {char : Char} (digit : isDigit char) : ¬Text.isBlank char := by
  have range := Text.toNat_of_isDigit digit
  simp only [Text.isBlank, Bool.or_eq_true, Bool.and_eq_true, decide_eq_true_eq, beq_iff_eq]
  omega

section Numbers

variable {run rest : List Char}

/-- A run of digits of at most so many, before something that is no digit. -/
theorem readNumber?_run {width : Nat} (numeral : ∀ char ∈ run, isDigit char) (nonempty : run ≠ [])
    (fits : run.length ≤ width) (stops : Stops isDigit rest) :
    readNumber? width (run ++ rest) = (Text.natOfDigits? run).map (·, rest) := by
  unfold readNumber?
  rw [Text.takeWhile_run numeral stops, List.take_of_length_le fits]
  simp only [List.isEmpty_eq_false_iff.mpr nonempty, Bool.false_eq_true, if_false, List.drop_left]

theorem padded_ne_nil (width number : Nat) : padZeros width (digits number) ≠ [] := by
  intro empty
  exact Text.digits_ne_nil number (List.append_eq_nil_iff.mp empty).2

theorem readNumber?_padded {width number : Nat} (wide : 0 < width) (fits : number < 10 ^ width)
    (stops : Stops isDigit rest) :
    readNumber? width (padZeros width (digits number) ++ rest) = some (number, rest) := by
  rw [readNumber?_run (fun _ => Text.isDigit_of_mem_padZeros) (padded_ne_nil _ _)
    (Nat.le_of_eq (Text.length_padded wide fits)) stops, Text.natOfDigits?_padded]
  rfl

/-- Digits have no white space before them. -/
theorem skipBlank_digits (numeral : ∀ char ∈ run, isDigit char) (nonempty : run ≠ []) :
    skipBlank (run ++ rest) = run ++ rest := by
  obtain ⟨first, tail, rfl⟩ := List.exists_cons_of_ne_nil nonempty
  exact List.dropWhile_cons_of_neg (not_isBlank_of_isDigit (numeral first List.mem_cons_self))

/-- Two digits. -/
theorem readShort?_padded {number : Nat} (fits : number < 100) (stops : Stops isDigit rest) :
    readShort? ((paddedDigits 2 number).toList ++ rest) = some (number, rest) := by
  unfold readShort? paddedDigits
  rw [String.toList_ofList, skipBlank_digits (fun _ => Text.isDigit_of_mem_padZeros)
    (padded_ne_nil _ _), readNumber?_padded (by decide) fits stops]

/-- A sign is no digit and no white space; the digits after it may be as many as there are. -/
theorem readNumber?_all {number width : Nat} (stops : Stops isDigit rest) :
    readNumber? (padZeros width (digits number) ++ rest).length
      (padZeros width (digits number) ++ rest) = some (number, rest) := by
  rw [readNumber?_run (fun _ => Text.isDigit_of_mem_padZeros) (padded_ne_nil _ _)
    (by rw [List.length_append]; omega) stops, Text.natOfDigits?_padded]
  rfl

/-- A year of any length. -/
theorem readYear?_write (year : Int) (stops : Stops isDigit rest) :
    readYear? ((writeYear year).toList ++ rest) = some (year, rest) := by
  unfold writeYear
  split
  case isTrue plain =>
    have sign : (year.toNat : Int) = year := by omega
    have read := readNumber?_padded (by decide : 0 < 4) (by omega : year.toNat < 10 ^ 4) stops
    obtain ⟨first, tail, shape⟩ := List.exists_cons_of_ne_nil (padded_ne_nil 4 year.toNat)
    have digit : isDigit first := Text.isDigit_of_mem_padZeros (shape ▸ List.mem_cons_self)
    unfold paddedDigits readYear?
    rw [String.toList_ofList, skipBlank_digits (fun _ => Text.isDigit_of_mem_padZeros)
      (padded_ne_nil _ _)]
    rw [shape, List.cons_append] at read ⊢
    split
    case h_3 => simp only [read, Option.map_some, sign]
    all_goals
      rename_i starts
      cases starts
      exact absurd digit (by decide)
  case isFalse =>
    by_cases negative : year < 0
    · have sign : (-(year.natAbs : Int)) = year := by omega
      have shape : ((if year < 0 then "-" else "+") ++ paddedDigits 4 year.natAbs).toList ++ rest
          = '-' :: (padZeros 4 (digits year.natAbs) ++ rest) := by
        simp [negative, paddedDigits]
      have kept : skipBlank ('-' :: (padZeros 4 (digits year.natAbs) ++ rest))
          = '-' :: (padZeros 4 (digits year.natAbs) ++ rest) := rfl
      rw [shape, readYear?, kept]
      simp only [readNumber?_all stops, Option.map_some, sign]
    · have sign : (year.natAbs : Int) = year := by omega
      have shape : ((if year < 0 then "-" else "+") ++ paddedDigits 4 year.natAbs).toList ++ rest
          = '+' :: (padZeros 4 (digits year.natAbs) ++ rest) := by
        simp [negative, paddedDigits]
      have kept : skipBlank ('+' :: (padZeros 4 (digits year.natAbs) ++ rest))
          = '+' :: (padZeros 4 (digits year.natAbs) ++ rest) := rfl
      rw [shape, readYear?, kept]
      simp only [readNumber?_all stops, Option.map_some, sign]

end Numbers

/-! ### Dates -/

/-- A date that there is, on a day that the calendar has a place for. -/
theorem readDate?_write {date : Date} (valid : date.isValid)
    (inside : inRange (date.toDays * daySeconds)) (month : date.month < 100)
    (day : date.day < 100) {rest : List Char} (stops : Stops isDigit rest) :
    readDate? ((writeYear date.year).toList ++ '-' :: ((paddedDigits 2 date.month).toList
      ++ '-' :: ((paddedDigits 2 date.day).toList ++ rest))) = some (date, rest) := by
  have dash : ∀ tail, Stops isDigit ('-' :: tail) := fun _ => Text.stops_cons.mpr rfl
  have mark : ∀ tail, readMark? '-' ('-' :: tail) = some tail := fun _ => rfl
  unfold readDate?
  simp only [readYear?_write date.year (dash _), mark, readShort?_padded month (dash _),
    readShort?_padded day stops, valid, inside, Bool.and_self, if_true, Option.bind_eq_bind,
    Option.bind_some]

/-! ### Times of day -/

/-- Up to nine digits after a point. -/
theorem readFraction?_run {run rest : List Char} (numeral : ∀ char ∈ run, isDigit char)
    (nonempty : run ≠ []) (short : run.length ≤ 9) (stops : Stops isDigit rest) :
    readFraction? ('.' :: (run ++ rest))
      = (Text.natOfDigits? run).map fun number => (number * Nat.pow 10 (9 - run.length), rest) := by
  unfold readFraction?
  simp only [Text.takeWhile_run numeral stops, List.isEmpty_eq_false_iff.mpr nonempty,
    Bool.false_eq_true, if_false, List.take_of_length_le short, List.drop_left]

theorem readFraction?_padded {width number : Nat} {rest : List Char} (wide : 0 < width)
    (short : width ≤ 9) (fits : number < 10 ^ width) (stops : Stops isDigit rest) :
    readFraction? (("." ++ paddedDigits width number).toList ++ rest)
      = some (number * 10 ^ (9 - width), rest) := by
  have length := Text.length_padded wide fits
  have read := readFraction?_run (fun _ => Text.isDigit_of_mem_padZeros) (padded_ne_nil width number)
    (length.symm ▸ short) stops
  have shape : ("." ++ paddedDigits width number).toList ++ rest
      = '.' :: (padZeros width (digits number) ++ rest) := by
    simp [paddedDigits]
  rw [shape, read, Text.natOfDigits?_padded, length]
  rfl

/-- A fraction of a second, before a character that is neither digit nor point. -/
theorem readFraction?_write {nanos : Nat} {first : Char} {tail : List Char}
    (small : nanos < 1000000000) (digit : isDigit first = false) (point : first ≠ '.') :
    readFraction? ((writeFraction nanos).toList ++ first :: tail) = some (nanos, first :: tail) := by
  have stops : Stops isDigit (first :: tail) := Text.stops_cons.mpr digit
  unfold writeFraction
  split
  · rename_i none
    rw [none]
    simp [readFraction?, point]
  · split
    · rw [readFraction?_padded (by decide) (by decide) (by omega) stops]
      congr 2
      omega
    · split
      · rw [readFraction?_padded (by decide) (by decide) (by omega) stops]
        congr 2
        omega
      · rw [readFraction?_padded (by decide) (by decide) (by omega) stops]
        congr 2
        omega

theorem stops_writeFraction {nanos : Nat} {rest : List Char} (stops : Stops isDigit rest) :
    Stops isDigit ((writeFraction nanos).toList ++ rest) := by
  have point : ∀ width number, Stops isDigit (("." ++ paddedDigits width number).toList ++ rest) := by
    intro width number
    rw [String.toList_append]
    exact Text.stops_cons.mpr rfl
  unfold writeFraction
  split
  · exact stops
  · split
    · exact point _ _
    · split <;> exact point _ _

/-- A time of day before an offset. -/
theorem readClock?_write {time : ClockTime} (valid : time.isValid)
    (small : time.nanos < 1000000000) {first : Char} (blank : ¬Text.isBlank first)
    (digit : isDigit first = false) (point : first ≠ '.') (tail : List Char) :
    readClock? ((paddedDigits 2 time.hour).toList ++ ':' :: ((paddedDigits 2 time.minute).toList
      ++ ':' :: ((paddedDigits 2 time.second).toList ++ ((writeFraction time.nanos).toList
        ++ first :: tail)))) = some (time, first :: tail) := by
  have parts : (time.hour < 24 ∧ time.minute < 60) ∧ time.second ≤ 60 := by
    simpa [ClockTime.isValid] using valid
  have colon : ∀ tail, Stops isDigit (':' :: tail) := fun _ => Text.stops_cons.mpr rfl
  have mark : ∀ tail, readMark? ':' (':' :: tail) = some tail := fun _ => rfl
  have stops : Stops isDigit (first :: tail) := Text.stops_cons.mpr digit
  have kept : skipBlank (first :: tail) = first :: tail := List.dropWhile_cons_of_neg blank
  unfold readClock?
  simp only [mark, readShort?_padded (by omega : time.hour < 100) (colon _),
    readShort?_padded (by omega : time.minute < 100) (colon _),
    readShort?_padded (by omega : time.second < 100) (stops_writeFraction stops),
    readFraction?_write small digit point, valid, kept, if_true, Option.bind_eq_bind,
    Option.bind_some]

/-! ### Instants -/

/-- The second of the day of a time, as a clock shows it. -/
def clockTime (instant : Instant) : ClockTime where
  hour := instant.secondOfDay / 3600
  minute := instant.secondOfDay / 60 % 60
  second := instant.secondOfDay % 60 + if 1000000000 ≤ instant.nanos then 1 else 0
  nanos := if 1000000000 ≤ instant.nanos then instant.nanos - 1000000000 else instant.nanos

theorem isValid_clockTime (instant : Instant) : instant.clockTime.isValid := by
  have small : instant.secondOfDay < 86400 := by
    unfold secondOfDay daySeconds
    omega
  unfold ClockTime.isValid clockTime
  simp only [Bool.and_eq_true, decide_eq_true_eq]
  split <;> omega

theorem nanos_clockTime_lt (instant : Instant) : instant.clockTime.nanos < 1000000000 := by
  have bound := instant.nanos_lt
  unfold clockTime
  simp only
  split <;> omega

theorem toDays_date (instant : Instant) :
    instant.date.toDays = instant.seconds / daySeconds :=
  Date.toDays_ofDays instant.day

/-- A date and a clock show the time that they were made of. -/
theorem ofParts?_clockTime (instant : Instant) :
    ofParts? instant.date instant.clockTime 0 = some instant := by
  have last := instant.leap_last
  have small := instant.nanos_lt
  have inside := instant.inside
  by_cases leap : 1000000000 ≤ instant.nanos
  · have second : instant.clockTime.second = 60 := by
      have minute := last leap
      simp only [clockTime, if_pos leap, secondOfDay, daySeconds]
      omega
    have nanos : instant.clockTime.nanos + 1000000000 = instant.nanos := by
      simp only [clockTime, if_pos leap]
      omega
    have seconds : instant.date.toDays * daySeconds
        + ((instant.clockTime.hour * 3600 + instant.clockTime.minute * 60 : Nat) : Int) + 59 - 0
        = instant.seconds := by
      have minute := last leap
      rw [toDays_date]
      simp only [clockTime, secondOfDay, daySeconds]
      omega
    simp only [ofParts?, second, nanos, seconds, if_true]
    exact dif_pos ⟨inside, small, last⟩
  · have second : instant.clockTime.second ≠ 60 := by
      simp only [clockTime, if_neg leap]
      omega
    have nanos : instant.clockTime.nanos = instant.nanos := by
      simp only [clockTime, if_neg leap]
    have seconds : instant.date.toDays * daySeconds
        + ((instant.clockTime.hour * 3600 + instant.clockTime.minute * 60 : Nat) : Int)
        + (instant.clockTime.second : Int) - 0 = instant.seconds := by
      rw [toDays_date]
      simp only [clockTime, if_neg leap, secondOfDay, daySeconds]
      omega
    simp only [ofParts?, if_neg second, nanos, seconds]
    exact dif_pos ⟨inside, small, last⟩

/-- The parts of a text of a time. -/
theorem toList_write (instant : Instant) : instant.write.toList
    = (writeYear instant.date.year).toList ++ '-' :: ((paddedDigits 2 instant.date.month).toList
      ++ '-' :: ((paddedDigits 2 instant.date.day).toList
        ++ 'T' :: ((paddedDigits 2 instant.clockTime.hour).toList
          ++ ':' :: ((paddedDigits 2 instant.clockTime.minute).toList
            ++ ':' :: ((paddedDigits 2 instant.clockTime.second).toList
              ++ ((writeFraction instant.clockTime.nanos).toList ++ ['Z'])))))) := by
  simp only [write, writeWith, clockTime, String.toList_append, List.append_assoc]
  rfl

/-- **A time is read back from its text.** -/
theorem read?_write (instant : Instant) : read? instant.write = some instant := by
  have valid : instant.date.isValid := Date.isValid_ofDays instant.day
  have small : instant.date.month < 100 ∧ instant.date.day < 100 := Date.ofDays_lt instant.day
  have inside : inRange (instant.date.toDays * daySeconds) := by
    rw [toDays_date]
    exact inRange_dayStart instant.inside
  have letter : ∀ rest, Stops isDigit ('T' :: rest) := fun _ => Text.stops_cons.mpr rfl
  have divider : ∀ rest, readDivider? ('T' :: rest) = some rest := fun _ => rfl
  have clock := readClock?_write instant.isValid_clockTime instant.nanos_clockTime_lt
    (by decide : ¬Text.isBlank 'Z') rfl (by decide) []
  have offset : readOffset? ['Z'] = some (0, []) := by decide
  unfold read?
  rw [toList_write]
  simp only [readDate?_write valid inside small.1 small.2 (letter _), divider, clock, offset,
    Option.bind_eq_bind, Option.bind_some]
  exact ofParts?_clockTime instant

end Paydesk.Instant
