/-
**Paying an order.**

A payer picks a payment method for a new order. If it is another one than the order was priced
with, the order is priced anew. The method's handler then creates the payment, and its verdict
decides whether the order is created or rejected in the payment system or stays new; the order is
stored in every case.

* `Order.withMethod`: the order with the payer's method;
* `Order.forPayment`: the order that a payment is asked for;
* `Order.payBy`: creates a payment and stores the order;
* `PaymentRequest.pay`: the same for the order of a request, if it is new.
-/

import Paydesk.Flow.Guard
import Paydesk.Flow.Intake

namespace Paydesk

namespace Order

/-- Whether an order is priced with a method. -/
def hasMethod (order : Order) (id : String) : Bool := order.method.any (·.id == id)

/-- An order with a method that it was not priced with, not yet priced. -/
def switchTo (order : Order) (chosen : ChosenMethod) : Order :=
  { order with
    method := some chosen.snapshot
    methodOutcome := chosen.outcome
    methodOutcomeCurrency := some chosen.method.currency }

/-- An order with a method, priced anew if it is another one than before. -/
def withMethod (settings : Settings) (order : Order) (method : PaymentMethod)
    (system : PaymentSystem) : Flow Order := do
  if order.hasMethod method.id then return order
  else
    let outcome ← method.withinLimits order.projectIncomeCurrency order.projectIncome
    (order.switchTo ⟨method, system, outcome⟩).priced settings

/-- The address to reach the payer: that of a request if it is not blank, else the known one. -/
def email? (order : Order) (request : PaymentRequest) : Option String :=
  (request.email.filter fun email => Text.trimBlank email != "").or order.payer.email

/-- An order with what the payer gave; an account that is missing is named by the payer's
address. -/
def withPayer (order : Order) (request : PaymentRequest) (email : String) : Order :=
  { order with
    projectAccount := if order.projectAccount == "" then email else order.projectAccount
    payer := { order.payer with email := some email }
    requisites := order.requisites.merge request.requisites
    methodTerminalId := (order.method.map (·.params.terminal)).filter (· != "") }

/-- The order that a payment is asked for: with the payer's method and what the payer gave, and with
its accounting amounts. -/
def forPayment (settings : Settings) (order : Order) (request : PaymentRequest) : Flow Order := do
  let (method, system) ← .usableMethod request.methodId
  let order ← order.withMethod settings method system
  let email ← .orRefuse (.missingField "email") (order.email? request)
  let order := order.withPayer request email
  return (← order.accounting settings).apply order

/-- An order's status after its payment was asked for. -/
def statusAfter (order : Order) : Verdict → Status
  | .accepted => .created
  | .broken => .rejected
  | .pending | .invalid => order.status

/-- An order after its payment was asked for. -/
def afterPayment (order : Order) (response : PaymentResponse) (now : Instant) : Order :=
  { order with status := order.statusAfter response.verdict, updatedAt := now }

/-- Creates a payment for an order, stores the order and gives the handler's answer. -/
def payBy (settings : Settings) (order : Order) (request : PaymentRequest)
    (provider : ProviderSettings) : Flow PaymentResponse := do
  let order ← order.forPayment settings request
  let response ←
    .orFail .handler (← Flow.ask (.createPayment order provider request.requisites))
  let now ← Flow.ask .clock
  let _ ← .update (order.afterPayment response now)
  return response

end Order

/-- Pays an order that is new. -/
def PaymentRequest.pay (settings : Settings) (request : PaymentRequest)
    (provider : ProviderSettings) : Flow PaymentResponse := do
  let order ← .orRefuse .orderNotFound (← .fetch request.orderId)
  .refuseIf order.status.paymentRefusal?
  order.payBy settings request provider

end Paydesk
