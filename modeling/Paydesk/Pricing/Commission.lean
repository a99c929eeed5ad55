/-
**Commissions.**

For every project and payment method a table names three percentages of the amount paid: what the
payment method keeps, what the provider keeps, and how much of both may be shifted onto the payer.

* `percentOf`: a percentage of an amount, rounded once;
* `CommissionTable.commission`: the three shares of an amount;
* `Commission.total`: what the project owes before anything is shifted.
-/

import Paydesk.Amount
import Paydesk.Dict

namespace Paydesk

/-- One hundred. -/
def hundred : Decimal := ⟨false, 100, 0, by decide, Nat.zero_le _⟩

/-- A percentage of an amount, or why there is none. -/
def percentOf (amount : Amount) (percent : Decimal) : Except String Amount :=
  match percent.div? hundred >>= amount.scale? with
  | some share => .ok share
  | none => .error s!"{percent.write}% of {amount.write} overflows"

/-- The shares of an amount, in the currency of the payment method. -/
structure Commission where
  /-- What the payment method keeps. -/
  method : Amount
  /-- What the provider keeps. -/
  psp : Amount
  /-- What may be shifted onto the payer. -/
  payer : Amount
  deriving DecidableEq

/-- What the payment method and the provider keep together. -/
def Commission.total (commission : Commission) : Except Overflow Amount :=
  commission.method.add commission.psp

/-- The percentages that shares are reckoned with. -/
structure CommissionRates where
  method : Decimal
  psp : Decimal
  payer : Decimal
  deriving DecidableEq

/-- Why there is no commission. -/
inductive CommissionError where
  | notConfigured (projectId methodId : String)
  | service (reason : String)
  deriving DecidableEq

/-- The text of an error. -/
def CommissionError.message : CommissionError → String
  | notConfigured projectId methodId =>
    s!"No commission is configured for project {projectId} and payment method {methodId}"
  | service reason => s!"Commission service error: {reason}"

/-- The shares of an amount at given rates. -/
def CommissionRates.commission (rates : CommissionRates) (amount : Amount) :
    Except CommissionError Commission := do
  let share (percent : Decimal) := (percentOf amount percent).mapError .service
  return ⟨← share rates.method, ← share rates.psp, ← share rates.payer⟩

/-- Rates by project and payment method. -/
structure CommissionTable where
  rates : Dict String (Dict String CommissionRates) := ∅

namespace CommissionTable

/-- The table without rates. -/
def empty : CommissionTable := {}

/-- Sets the rates of a project and a payment method. -/
def set (table : CommissionTable) (projectId methodId : String) (rates : CommissionRates) :
    CommissionTable :=
  ⟨table.rates.alter projectId fun methods => (methods.getD ∅).insert methodId rates⟩

/-- The rates of a project and a payment method. -/
def rates? (table : CommissionTable) (projectId methodId : String) : Option CommissionRates :=
  table.rates.get? projectId >>= (·.get? methodId)

/-- The shares of an amount paid to a project by a payment method. -/
def commission (table : CommissionTable) (projectId methodId : String) (amount : Amount) :
    Except CommissionError Commission :=
  match table.rates? projectId methodId with
  | some rates => rates.commission amount
  | none => .error (.notConfigured projectId methodId)

end CommissionTable

end Paydesk
