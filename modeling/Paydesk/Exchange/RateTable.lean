/-
**The latest rate of every pair.**

The table keeps one rate for a pair of codes, whatever the case of their ASCII letters: the one set
last, as it was given.

* `RateTable.set`: refuses rates that are not above zero;
* `RateTable.fetch`: the rate of a pair.
-/

import Paydesk.Exchange.Rate

namespace Paydesk

/-- Rates in the order they were set, the latest first. -/
structure RateTable where
  rates : List ExchangeRate

namespace RateTable

/-- The table without rates. -/
def empty : RateTable := ⟨[]⟩

/-- Whether a rate is that of a pair of codes. -/
def isFor (base quote : String) (rate : ExchangeRate) : Bool :=
  Text.sameLetters rate.base base && Text.sameLetters rate.quote quote

/-- Sets the rate of its pair. -/
def set (table : RateTable) (rate : ExchangeRate) : Except RateError RateTable :=
  if rate.rate.isPositive then
    .ok ⟨rate :: table.rates.filter fun other => !isFor rate.base rate.quote other⟩
  else .error (.unusable rate.display)

/-- The rate of a pair of codes. -/
def fetch (table : RateTable) (base quote : String) : Except RateError ExchangeRate :=
  match table.rates.find? (isFor base quote) with
  | some rate => .ok rate
  | none => .error (.missing (ExchangeRate.pairName base quote))

/-- An amount of one currency in another. -/
def convert (table : RateTable) (base quote : String) (amount : Amount) :
    Except RateError Amount :=
  ExchangeRate.convertWith table.fetch base quote amount

end RateTable

end Paydesk
