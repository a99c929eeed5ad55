/-
**New orders.**

A request that passes the rules becomes an order with the status new. If it names a payment method
the order is priced at once; otherwise it has no fees until it is paid.

* `Intake.order`: the order of a request;
* `OrderRequest.draft`: the order of a request that passes the rules;
* `OrderRequest.place`: checks a request, stores its order and tells the hooks.
-/

import Paydesk.Flow.Intake

namespace Paydesk

namespace Intake

/-- What is known of the payer. -/
def payer (intake : Intake) (request : OrderRequest) : Payer :=
  { ip := request.payerIp
    country := intake.place.country.or request.region
    city := intake.place.city
    subdivision := intake.place.subdivision
    timezone := intake.place.timezone
    email := request.payerEmail
    phone := request.payerPhone }

/-- The order of a request, without fees. -/
def build (intake : Intake) (request : OrderRequest) (id : String) (now : Instant)
    (inMerchantCurrency projectOutcome : Amount) : Order :=
  { id
    version := 0
    project := intake.project.snapshot
    projectOrderId := request.clientId?
    projectAccount := request.account
    description := request.description.getD s!"Payment by order # {id}"
    projectIncome := request.amount
    projectIncomeCurrency := intake.currency.code
    projectOutcome
    projectOutcomeCurrency := intake.project.callbackCurrency
    projectParams := intake.params
    payer := intake.payer request
    method := intake.method.map ChosenMethod.snapshot
    methodTerminalId := none
    methodOrderId := none
    methodPayerAccount := none
    methodOutcome := (intake.method.map (·.outcome)).getD .zero
    methodOutcomeCurrency := intake.method.map (·.method.currency)
    methodIncome := .zero
    methodIncomeCurrency := none
    methodClosedAt := none
    transaction := .none
    requisites := ∅
    package := intake.package
    vat := .zero
    projectFee := none
    pspFee := none
    systemFee := none
    payerFee := none
    inPspCurrency := .zero
    inMerchantCurrency
    outMerchantCurrency := .zero
    inSystemCurrency := .zero
    urlSuccess := request.urlSuccess
    urlFail := request.urlFail
    urlVerify := request.urlVerify
    urlNotify := request.urlNotify
    isJsonRequest := request.isJsonRequest
    status := .new
    createdAt := now
    updatedAt := now
    projectLastRequestedAt := none }

/-- The order of a request, priced if it has a payment method. -/
def order (settings : Settings) (intake : Intake) (request : OrderRequest) : Flow Order := do
  let currency := intake.currency.code
  let inMerchantCurrency ←
    .convert currency intake.project.merchant.accountingCurrency request.amount
  let projectOutcome ← .convert currency intake.project.callbackCurrency request.amount
  let id ← Flow.ask .newId
  let now ← Flow.ask .clock
  let order := intake.build request id now inMerchantCurrency projectOutcome
  if intake.method.isSome then order.priced settings else return order

end Intake

namespace OrderRequest

/-- The order of a request that passes the rules. -/
def draft (settings : Settings) (request : OrderRequest) : Flow Order := do
  let intake ← request.check settings
  intake.order settings request

/-- Checks a request, stores its order and tells the hooks. -/
def place (settings : Settings) (request : OrderRequest) : Flow Order := do
  let order ← request.draft settings
  let stored ← .insert order
  let () ← Flow.ask (.announceCreated stored)
  return stored

end OrderRequest

end Paydesk
