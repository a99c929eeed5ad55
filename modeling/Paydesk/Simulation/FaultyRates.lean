/-
**Rate books that fail.**

Rates are kept in a table or in a history. A table can be made to fail for single pairs of
currencies, a history can be closed for good.

* `FaultyRates.fetch`, `FaultyRates.set`, `FaultyRates.convert`: rates of a book that may fail.
-/

import Paydesk.Exchange.RateHistory
import Paydesk.Exchange.RateTable
import Paydesk.Simulation.Outage
import Paydesk.Store.Table

namespace Paydesk

/-- Rates, kept in either way. -/
inductive RateBook where
  | table (table : RateTable)
  | history (history : RateHistory)

namespace RateBook

/-- The rate of a pair of codes. -/
def fetch : RateBook → (base quote : String) → Except RateError ExchangeRate
  | table rates => rates.fetch
  | history rates => rates.fetch

/-- Adds a rate. -/
def set : RateBook → ExchangeRate → Except RateError RateBook
  | table rates, rate => (rates.set rate).map table
  | history rates, rate => (rates.set rate).map history

end RateBook

/-- A rate book with outages by pair. -/
structure FaultyRates where
  book : RateBook
  outages : Outages := ∅
  isClosed : Bool := false

namespace FaultyRates

/-- Closes a history; a table stays open. -/
def close (rates : FaultyRates) : FaultyRates :=
  match rates.book with
  | .table _ => rates
  | .history _ => { rates with isClosed := true }

/-- Makes a pair of a table fail. -/
def failPair (rates : FaultyRates) (pair reason : String) : FaultyRates :=
  match rates.book with
  | .table _ => { rates with outages := rates.outages.insert pair reason }
  | .history _ => rates

/-- The error of a closed book. -/
def closed : RateError := .unavailable TableStore.closedReason

/-- The rate of a pair of codes. -/
def fetch (rates : FaultyRates) (base quote : String) : Except RateError ExchangeRate :=
  if rates.isClosed then .error closed
  else
    match rates.outages.get? (ExchangeRate.pairName base quote) with
    | some reason => .error (.unavailable reason)
    | none => rates.book.fetch base quote

/-- Adds a rate; one that no book takes is refused first. -/
def set (rates : FaultyRates) (rate : ExchangeRate) : Except RateError FaultyRates := do
  let book ← rates.book.set rate
  if rates.isClosed then throw closed else return { rates with book }

/-- An amount of one currency in another. -/
def convert (rates : FaultyRates) (base quote : String) (amount : Amount) :
    Except RateError Amount :=
  ExchangeRate.convertWith rates.fetch base quote amount

end FaultyRates

end Paydesk
