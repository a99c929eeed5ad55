/-
**Value added tax.**

A table names percentages by region: a country's code, or a country's and a subdivision's with a
hyphen between. Letters count in either case, and a subdivision's percentage goes before its
country's.

* `VatTable.percent?`: the percentage of a place;
* `VatTable.vat`: the tax on an amount.
-/

import Paydesk.Pricing.Commission

namespace Paydesk

/-- Why there is no tax. -/
inductive VatError where
  | rateNotFound (country : String)
  | service (reason : String)
  deriving DecidableEq

/-- The text of an error. -/
def VatError.message : VatError → String
  | rateNotFound country => s!"No VAT rate is known for {country}"
  | service reason => s!"VAT service error: {reason}"

/-- Percentages by region in capitals. -/
structure VatTable where
  percents : Dict String Decimal := ∅

namespace VatTable

/-- The table without percentages. -/
def empty : VatTable := {}

/-- Sets the percentage of a region. -/
def set (table : VatTable) (region : String) (percent : Decimal) : VatTable :=
  ⟨table.percents.insert (Text.upperCase region) percent⟩

/-- The percentage of a subdivision. -/
def regional? (table : VatTable) (country subdivision : String) : Option Decimal :=
  table.percents.get? (Text.upperCase country ++ "-" ++ Text.upperCase subdivision)

/-- The percentage of a place. -/
def percent? (table : VatTable) (country : String) (subdivision : Option String) :
    Option Decimal :=
  (subdivision >>= table.regional? country).or (table.percents.get? (Text.upperCase country))

/-- The tax on an amount paid from a place. -/
def vat (table : VatTable) (country : String) (subdivision : Option String) (amount : Amount) :
    Except VatError Amount :=
  match table.percent? country subdivision with
  | some percent => (percentOf amount percent).mapError .service
  | none => .error (.rateNotFound (Text.upperCase country))

end VatTable

end Paydesk
