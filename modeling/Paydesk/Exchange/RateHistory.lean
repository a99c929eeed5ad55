/-
**All rates ever set.**

The history keeps every rate in a row: its codes in capitals, its number in text and its time in
milliseconds. Of a pair's rates the one with the latest time counts, and among several the one set
last.

* `RateRow.ofRate`, `RateRow.toRate`: a rate written into a row and read out of it;
* `RateHistory.set`: refuses rates that are not above zero;
* `RateHistory.fetch`: the rate of a pair.
-/

import Paydesk.Exchange.Rate

namespace Paydesk

/-- A rate as it is kept. -/
structure RateRow where
  base : String
  quote : String
  rate : String
  updatedAtMillis : Int
  deriving DecidableEq

/-- Rates in the order they were set, the latest first. -/
structure RateHistory where
  rows : List RateRow

namespace RateRow

/-- How a rate is kept. -/
def ofRate (rate : ExchangeRate) : RateRow :=
  ⟨Text.upperCase rate.base, Text.upperCase rate.quote, rate.rate.write, rate.updatedAt.toMillis⟩

/-- The rate that is kept; a text that is no number is no rate. -/
def toRate (row : RateRow) : Except RateError ExchangeRate :=
  match Decimal.readNumeral row.rate.toList with
  | .ok rate =>
    .ok ⟨row.base, row.quote, rate, (Instant.ofMillis? row.updatedAtMillis).getD .epoch⟩
  | .error cause => .error (.unusable cause.message)

/-- Whether a rate is that of a pair of codes. -/
def isFor (base quote : String) (row : RateRow) : Bool :=
  row.base == Text.upperCase base && row.quote == Text.upperCase quote

end RateRow

namespace RateHistory

/-- The history without rates. -/
def empty : RateHistory := ⟨[]⟩

/-- Adds a rate. -/
def set (history : RateHistory) (rate : ExchangeRate) : Except RateError RateHistory :=
  if rate.rate.isPositive then .ok ⟨RateRow.ofRate rate :: history.rows⟩
  else .error (.unusable rate.display)

/-- The row with the latest time; among several the first of the list. -/
def latest? : List RateRow → Option RateRow
  | [] => none
  | row :: rest =>
    match latest? rest with
    | some other => if row.updatedAtMillis < other.updatedAtMillis then some other else some row
    | none => some row

/-- The rate of a pair of codes. -/
def fetch (history : RateHistory) (base quote : String) : Except RateError ExchangeRate :=
  match latest? (history.rows.filter (RateRow.isFor base quote)) with
  | some row => row.toRate
  | none => .error (.missing (ExchangeRate.pairName base quote))

/-- An amount of one currency in another. -/
def convert (history : RateHistory) (base quote : String) (amount : Amount) :
    Except RateError Amount :=
  ExchangeRate.convertWith history.fetch base quote amount

end RateHistory

end Paydesk
