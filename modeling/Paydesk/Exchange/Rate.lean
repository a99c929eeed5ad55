/-
**Exchange rates.**

One unit of the base currency buys so many units of the quote currency. Rates are not rounded; a
converted amount is rounded once.

* `ExchangeRate.convert`: an amount of the base currency in the quote currency;
* `ExchangeRate.inverse`: the rate of the opposite direction;
* `ExchangeRate.convertWith`: a conversion by whatever rates can be fetched: none for one currency,
  else the direct rate, else the inverse of the opposite one.
-/

import Paydesk.Json.Record

namespace Paydesk

/-- Why a conversion fails. -/
inductive RateError where
  | unavailable (reason : String)
  | missing (pair : String)
  | unusable (rate : String)
  | overflow (pair : String) (amount : Amount)
  deriving DecidableEq

/-- The name of an error. -/
def RateError.name : RateError → String
  | unavailable _ => "DatabaseError"
  | missing _ => "RateDoesNotExist"
  | unusable _ => "InvalidRate"
  | overflow _ _ => "Overflow"

/-- The text of an error. -/
def RateError.message : RateError → String
  | unavailable reason => s!"Database error: {reason}"
  | missing pair => s!"The requested exchange rate does not exist: {pair}"
  | unusable rate => s!"Exchange rate {rate} cannot be used for conversion"
  | overflow pair amount => s!"Converting {amount.write} at {pair} overflows"

/-- A quoted rate. -/
structure ExchangeRate where
  base : String
  quote : String
  rate : Decimal
  updatedAt : Instant
  deriving DecidableEq

namespace ExchangeRate

/-- The rate of one. -/
def one : Decimal := ⟨false, 1, 0, by decide, Nat.zero_le _⟩

/-- The rate of a currency with itself. -/
def parity (currency : String) : ExchangeRate := ⟨currency, currency, one, .epoch⟩

/-- The name of a pair of currencies. -/
def pairName (base quote : String) : String := base ++ "/" ++ quote

def pair (rate : ExchangeRate) : String := pairName rate.base rate.quote

/-- A rate in text. -/
def display (rate : ExchangeRate) : String :=
  s!"1 {rate.base} => {rate.rate.write} {rate.quote}"

/-- An amount of the base currency in the quote currency. -/
def convert (rate : ExchangeRate) (amount : Amount) : Except RateError Amount :=
  if !rate.rate.isPositive then .error (.unusable rate.pair)
  else
    match amount.scale? rate.rate with
    | some converted => .ok converted
    | none => .error (.overflow rate.pair amount)

/-- The rate of the opposite direction; there is none where it would be zero. -/
def inverse (rate : ExchangeRate) : Except RateError ExchangeRate :=
  match one.div? rate.rate with
  | some opposite =>
    if opposite.isZero || !rate.rate.isPositive then .error (.unusable rate.pair)
    else .ok ⟨rate.quote, rate.base, opposite, rate.updatedAt⟩
  | none => .error (.unusable rate.pair)

/-- The rate between two currencies by the rates that can be fetched. -/
def findRate (fetch : String → String → Except RateError ExchangeRate) (base quote : String) :
    Except RateError ExchangeRate :=
  match fetch base quote with
  | .ok rate => .ok rate
  | .error (.missing _) => do (← fetch quote base).inverse
  | .error error => .error error

/-- An amount of one currency in another by the rates that can be fetched. -/
def convertWith (fetch : String → String → Except RateError ExchangeRate) (base quote : String)
    (amount : Amount) : Except RateError Amount :=
  if Text.sameLetters base quote then .ok amount
  else do (← findRate fetch base quote).convert amount

/-- The rate of a document. -/
def read? : Json → Option ExchangeRate :=
  Json.readRecord? do
    let base ← Json.part "base_currency" Json.text?
    let quote ← Json.part "quote_currency" Json.text?
    let rate ← Json.part "rate" Json.readDecimal?
    let updatedAt ← Json.part "updated_at" Json.readInstant?
    return { base, quote, rate, updatedAt }

/-- The document of a rate. -/
def write (rate : ExchangeRate) : Json :=
  .object
    [("base_currency", .text rate.base), ("quote_currency", .text rate.quote),
      ("rate", Json.ofDecimal rate.rate), ("updated_at", Json.ofInstant rate.updatedAt)]

end ExchangeRate

end Paydesk
