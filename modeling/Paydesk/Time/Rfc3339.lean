/-
**Times in text.**

A time is written as date, `T`, time of day and offset; the fraction has no, three, six or nine
digits. A reader takes more: white space before numbers and separators, one digit for two, a space
or a small `t` between date and time, any fraction, and any offset shorter than a day.

* `Instant.write`: with a given text for the offset of zero;
* `Instant.read?`: the instant of a text.
-/

import Paydesk.Text.Blank
import Paydesk.Text.Integer
import Paydesk.Time.Instant

namespace Paydesk.Instant

/-! ### Writing -/

/-- A year in four digits, with a sign outside the years 0 to 9999. -/
def writeYear (year : Int) : String :=
  if 0 ≤ year ∧ year ≤ 9999 then Text.paddedDigits 4 year.toNat
  else (if year < 0 then "-" else "+") ++ Text.paddedDigits 4 year.natAbs

/-- A fraction of a second. -/
def writeFraction (nanos : Nat) : String :=
  if nanos = 0 then ""
  else if nanos % 1000000 = 0 then "." ++ Text.paddedDigits 3 (nanos / 1000000)
  else if nanos % 1000 = 0 then "." ++ Text.paddedDigits 6 (nanos / 1000)
  else "." ++ Text.paddedDigits 9 nanos

/-- An instant with a text for the offset of zero. -/
def writeWith (offset : String) (instant : Instant) : String :=
  let date := instant.date
  let second := instant.secondOfDay
  let leap := 1000000000 ≤ instant.nanos
  let seconds := second % 60 + if leap then 1 else 0
  let nanos := if leap then instant.nanos - 1000000000 else instant.nanos
  writeYear date.year ++ "-" ++ Text.paddedDigits 2 date.month ++ "-"
    ++ Text.paddedDigits 2 date.day ++ "T" ++ Text.paddedDigits 2 (second / 3600) ++ ":"
    ++ Text.paddedDigits 2 (second / 60 % 60) ++ ":" ++ Text.paddedDigits 2 seconds
    ++ writeFraction nanos ++ offset

/-- An instant with the short offset `Z`. -/
def write (instant : Instant) : String := instant.writeWith "Z"

/-- An instant with the long offset `+00:00`. -/
def writeLong (instant : Instant) : String := instant.writeWith "+00:00"

/-! ### Reading -/

/-- Characters without white space before them. -/
def skipBlank (chars : List Char) : List Char := chars.dropWhile Text.isBlank

/-- A number of one to so many digits, and what follows. -/
def readNumber? (width : Nat) (chars : List Char) : Option (Nat × List Char) :=
  let digits := (chars.takeWhile Text.isDigit).take width
  if digits.isEmpty then none
  else (Text.natOfDigits? digits).map fun number => (number, chars.drop digits.length)

/-- A number of one or two digits after white space. -/
def readShort? (chars : List Char) : Option (Nat × List Char) := readNumber? 2 (skipBlank chars)

/-- A year after white space: up to four digits, or a sign and any number of them. -/
def readYear? (chars : List Char) : Option (Int × List Char) :=
  match skipBlank chars with
  | '-' :: rest => (readNumber? rest.length rest).map fun (year, more) => (-(year : Int), more)
  | '+' :: rest => (readNumber? rest.length rest).map fun (year, more) => ((year : Int), more)
  | rest => (readNumber? 4 rest).map fun (year, more) => ((year : Int), more)

/-- A separator after white space. -/
def readMark? (mark : Char) (chars : List Char) : Option (List Char) :=
  match skipBlank chars with
  | first :: rest => if first = mark then some rest else none
  | [] => none

/-- A date, and what follows. -/
def readDate? (chars : List Char) : Option (Date × List Char) := do
  let (year, rest) ← readYear? chars
  let (month, rest) ← readShort? (← readMark? '-' rest)
  let (day, rest) ← readShort? (← readMark? '-' rest)
  let date : Date := ⟨year, month, day⟩
  if date.isValid && inRange (date.toDays * daySeconds) then some (date, rest) else none

/-- What divides the date from the time of day. -/
def readDivider? : List Char → Option (List Char)
  | 'T' :: rest | 't' :: rest | ' ' :: rest => some rest
  | _ => none

/-- A fraction of a second in nanoseconds, digits past the ninth cut off. -/
def readFraction? : List Char → Option (Nat × List Char)
  | '.' :: rest =>
    let digits := rest.takeWhile Text.isDigit
    if digits.isEmpty then none
    else
      let kept := digits.take 9
      (Text.natOfDigits? kept).map fun number =>
        (number * Nat.pow 10 (9 - kept.length), rest.drop digits.length)
  | chars => some (0, chars)

/-- An hour, minute and second. -/
structure ClockTime where
  hour : Nat
  minute : Nat
  second : Nat
  nanos : Nat

/-- Whether a clock shows a time; the second 60 is a leap second. -/
def ClockTime.isValid (time : ClockTime) : Bool :=
  time.hour < 24 && time.minute < 60 && time.second ≤ 60

/-- A time of day, and what follows. -/
def readClock? (chars : List Char) : Option (ClockTime × List Char) := do
  let (hour, rest) ← readShort? chars
  let (minute, rest) ← readShort? (← readMark? ':' rest)
  let (second, rest) ← readShort? (← readMark? ':' rest)
  let (nanos, rest) ← readFraction? rest
  let time : ClockTime := ⟨hour, minute, second, nanos⟩
  if time.isValid then some (time, skipBlank rest) else none

/-- Exactly two digits, and what follows. -/
def readPair? : List Char → Option (Nat × List Char)
  | first :: second :: rest => do
    return ((← Text.digitValue? first) * 10 + (← Text.digitValue? second), rest)
  | _ => none

/-- The hours and minutes of an offset in seconds, and what follows. -/
def readHours? (chars : List Char) : Option (Int × List Char) := do
  let (hours, rest) ← readPair? chars
  let (minutes, rest) ← readPair? (rest.dropWhile fun char => char == ':' || Text.isBlank char)
  if minutes < 60 ∧ hours < 24 then some ((hours * 3600 + minutes * 60 : Nat), rest) else none

/-- An offset in seconds, and what follows. -/
def readOffset? (chars : List Char) : Option (Int × List Char) :=
  if (chars.take 3).map Char.toUpper == ['U', 'T', 'C'] then some (0, chars.drop 3)
  else
    match chars with
    | 'Z' :: rest | 'z' :: rest => some (0, rest)
    | '+' :: rest => readHours? rest
    | '-' :: rest | '\u2212' :: rest =>
      (readHours? rest).map fun (seconds, more) => (-seconds, more)
    | _ => none

/-- The instant of a date and a time of day at an offset. -/
def ofParts? (date : Date) (time : ClockTime) (offset : Int) : Option Instant :=
  let leap := time.second = 60
  let seconds := date.toDays * daySeconds + ((time.hour * 3600 + time.minute * 60 : Nat) : Int)
    + (if leap then 59 else (time.second : Int)) - offset
  let nanos := if leap then time.nanos + 1000000000 else time.nanos
  if valid : inRange seconds ∧ nanos < 2000000000 ∧
      (1000000000 ≤ nanos → seconds % 60 = 59) then
    some ⟨seconds, nanos, valid.1, valid.2.1, valid.2.2⟩
  else none

/-- The instant of a text. -/
def read? (text : String) : Option Instant := do
  let (date, rest) ← readDate? text.toList
  let (time, rest) ← readClock? (← readDivider? rest)
  let (offset, rest) ← readOffset? rest
  if (skipBlank rest).isEmpty then ofParts? date time offset else none

end Paydesk.Instant
