/-
**Fees and accounting amounts.**

The commission is reckoned on the payment method's amount before tax. The project owes what the
payment method and the provider keep, less the part that is shifted onto the payer where the
merchant has that enabled; the payer is charged the amount, the tax and the shifted part. Every
figure is found before any is put into the order.

* `Order.allocate`: the fees of an order;
* `Order.accounting`: its amounts in accounting currencies as they are priced;
* `Order.settlementAmounts`: the same from what the payment system received.
-/

import Paydesk.Flow.Basic
import Paydesk.Settings

namespace Paydesk

/-- The fees of an order and what the payer is charged. -/
structure Allocation where
  commission : Commission
  vat : Amount
  charged : Amount
  projectFee : FeeBucket
  pspFee : FeeBucket
  systemFee : FeeBucket
  payerFee : Option FeeBucket
  deriving DecidableEq

/-- An order with its fees. -/
def Allocation.apply (allocation : Allocation) (order : Order) : Order :=
  { order with
    vat := allocation.vat
    methodOutcome := allocation.charged
    projectFee := some allocation.projectFee
    pspFee := some allocation.pspFee
    systemFee := some allocation.systemFee
    payerFee := allocation.payerFee }

/-- An order's amounts in the currencies of the provider's, the merchant's and the payment system's
books. -/
structure AccountingAmounts where
  psp : Amount
  merchant : Amount
  system : Amount
  deriving DecidableEq

/-- An order with its accounting amounts. -/
def AccountingAmounts.apply (amounts : AccountingAmounts) (order : Order) : Order :=
  { order with
    inPspCurrency := amounts.psp
    outMerchantCurrency := amounts.merchant
    inSystemCurrency := amounts.system }

/-- What a settled order is worth to its project and in the books. -/
structure SettlementAmounts where
  projectOutcome : Amount
  accounting : AccountingAmounts
  deriving DecidableEq

/-- An order with what it is worth. -/
def SettlementAmounts.apply (amounts : SettlementAmounts) (order : Order) : Order :=
  amounts.accounting.apply { order with projectOutcome := amounts.projectOutcome }

namespace Order

/-- The payment method of an order that must have one. -/
def requireMethod (order : Order) : Flow MethodSnapshot :=
  match order.method with
  | some method => .done method
  | none => .fail (.noMethod order.id)

/-- The tax on an order's amount; none where the merchant takes none. -/
def vatOn (order : Order) (amount : Amount) : Flow Amount :=
  if order.project.merchant.isVatEnabled then
    .vat (order.payer.country.getD "") order.payer.subdivision amount
  else .done .zero

/-- An order's amount with the tax on it. -/
def withTax (order : Order) (amount vat : Amount) : Flow Amount :=
  if order.project.merchant.isVatEnabled then .unlessOverflow (amount.add vat) else .done amount

/-- What the payer takes over of a commission: what is left of the project's total, what the payer
is charged, and the payer's fee. -/
def shift (merchant : Merchant) (currency : String) (commission : Commission)
    (total charged : Amount) : Flow (Amount × Amount × Option FeeBucket) := do
  if merchant.shiftsCommission then
    let left ← .unlessOverflow (total.sub commission.payer)
    let charged ← .unlessOverflow (charged.add commission.payer)
    let inMerchant ← .convert currency merchant.accountingCurrency commission.payer
    return (left, charged, some { amount := commission.payer, merchant := some inMerchant })
  else return (total, charged, none)

/-- The fees of an order, from its method's amount. -/
def allocate (settings : Settings) (order : Order) : Flow Allocation := do
  let method ← order.requireMethod
  let merchant := order.project.merchant
  let base := order.methodOutcome
  let vat ← order.vatOn base
  let taxed ← order.withTax base vat
  let commission ← .commission order.project.id method.id base
  let total ← .unlessOverflow commission.total
  let (owed, charged, payerFee) ← shift merchant method.currency commission total taxed
  let toMerchant := Flow.convert method.currency merchant.accountingCurrency
  let owedInMerchant ← toMerchant owed
  let pspInMerchant ← toMerchant commission.psp
  let pspInPsp ← .convert method.currency settings.pspCurrency commission.psp
  let systemInSystem ←
    .convert method.currency method.system.accountingCurrency commission.method
  let systemInMerchant ← toMerchant commission.method
  return {
    commission, vat, charged, payerFee
    projectFee := { amount := owed, merchant := some owedInMerchant }
    pspFee := { amount := commission.psp, merchant := some pspInMerchant, psp := some pspInPsp }
    systemFee :=
      { amount := commission.method
        merchant := some systemInMerchant
        system := some systemInSystem } }

/-- An order with its fees. -/
def priced (settings : Settings) (order : Order) : Flow Order := do
  return (← order.allocate settings).apply order

/-- Stops unless the provider's own currency is known. -/
def requirePspCurrency (settings : Settings) : Flow Unit := do
  match ← Flow.currency settings.pspCurrency with
  | some _ => return ()
  | none => .fail .unknownPspCurrency

/-- An order's amounts in accounting currencies as they are priced. -/
def accounting (settings : Settings) (order : Order) : Flow AccountingAmounts := do
  let method ← order.requireMethod
  requirePspCurrency settings
  let currency := order.methodOutcomeCurrency.getD method.currency
  let psp ← .convert currency settings.pspCurrency order.methodOutcome
  let merchant ←
    .convert order.projectIncomeCurrency order.project.merchant.accountingCurrency
      order.projectIncome
  let system ← .convert currency method.system.accountingCurrency order.methodOutcome
  return { psp, merchant, system }

/-- What an order is worth by what the payment system received. -/
def settlementAmounts (settings : Settings) (order : Order) : Flow SettlementAmounts := do
  let method ← order.requireMethod
  let currency := order.methodIncomeCurrency.getD ""
  let income := order.methodIncome
  let projectOutcome ← .convert currency order.projectOutcomeCurrency income
  requirePspCurrency settings
  let psp ← .convert currency settings.pspCurrency income
  let merchant ← .convert currency order.project.merchant.accountingCurrency income
  let system ← .convert currency method.system.accountingCurrency income
  return { projectOutcome, accounting := { psp, merchant, system } }

end Order

end Paydesk
