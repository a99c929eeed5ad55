/-
**Notifications of payment systems.**

A notification for an order that is settled changes nothing and is acknowledged. Otherwise the
handler of the order's method reads it. While nothing is decided nothing is stored. An order that
the handler accepts is worth what the payment system received; it is published and then stored, and
the hooks hear of it if it is settled for good. Any other verdict only stores what the handler
handed back.

* `Order.booked`, `Order.handedBack`: the order to be stored;
* `Order.settle`: what an accepted notification does;
* `Order.hear`: what a notification of an order that is not settled does;
* `Notification.process`: what any notification does.
-/

import Paydesk.Flow.Fees
import Paydesk.Flow.Guard

namespace Paydesk

/-- What came of a notification. -/
inductive NoticeOutcome where
  | handled (response : PaymentResponse)
  /-- The order had been settled before. -/
  | alreadyProcessed (order : Order) (message : String)
  deriving DecidableEq

/-- The message of an outcome. -/
def NoticeOutcome.message : NoticeOutcome → String
  | handled response => response.message
  | alreadyProcessed _ message => message

namespace Order

/-- An order at the version of another one. -/
def atVersionOf (order stored : Order) : Order := { order with version := stored.version }

/-- An order that was changed at a time. -/
def changedAt (order : Order) (now : Instant) : Order := { order with updatedAt := now }

/-- An order that a handler hands back, at the version of the stored one. -/
def acceptReturned (stored returned : Order) : Flow Order := do
  .orFail (fun failure => failure) (stored.checkReturned returned)
  return returned.atVersionOf stored

/-- Stops unless the currency of what the payment system received is known. -/
def requireIncomeCurrency (order : Order) : Flow Unit := do
  let code := order.methodIncomeCurrency.getD ""
  match ← Flow.currency code with
  | some _ => return ()
  | none => .fail (.unknownIncomeCurrency code)

/-- The order that a handler accepts, with what it is worth. -/
def booked (settings : Settings) (stored : Order) (response : PaymentResponse) : Flow Order := do
  let returned ←
    match response.order with
    | some order => .done order
    | none => .fail .noOrderReturned
  let order ← stored.acceptReturned returned
  order.requireIncomeCurrency
  let order := (← order.settlementAmounts settings).apply order
  let now ← Flow.ask .clock
  return order.changedAt now

/-- Books an order that a handler accepts, publishes and stores it. -/
def settle (settings : Settings) (stored : Order) (response : PaymentResponse) :
    Flow NoticeOutcome := do
  let order ← stored.booked settings response
  .publish (.ofOrder settings.notifyTopic order)
  let order ← .update order
  if order.status.isFinal then
    let () ← Flow.ask (.announceFinalized order)
  return .handled { response with order := some order }

/-- The order that a handler does not accept, as it hands it back. -/
def handedBack (stored : Order) (response : PaymentResponse) : Flow Order := do
  let order ←
    match response.order with
    | some returned => stored.acceptReturned returned
    | none => .done stored
  let now ← Flow.ask .clock
  return order.changedAt now

/-- Stores an order that a handler does not accept. -/
def keepRefused (stored : Order) (response : PaymentResponse) : Flow NoticeOutcome := do
  let order ← stored.handedBack response
  let _ ← .update order
  return .handled response

/-- Lets the handler of an order read a notification, and does what its verdict asks for. -/
def hear (settings : Settings) (order : Order) (notification : Notification)
    (provider : ProviderSettings) : Flow NoticeOutcome := do
  let response ←
    .orFail .handler (← Flow.ask (.readNotification order provider notification))
  match response.verdict with
  | .pending => return .handled response
  | .accepted => order.settle settings response
  | .invalid | .broken => order.keepRefused response

end Order

/-- Has a notification read, unless its order is settled. -/
def Notification.process (settings : Settings) (notification : Notification)
    (provider : ProviderSettings) : Flow NoticeOutcome := do
  let order ← .orRefuse .orderNotFound (← .fetch notification.orderId)
  match order.status.noticeGuard with
  | .error refusal => .refuse refusal
  | .ok (.settled message) => return .alreadyProcessed order message
  | .ok .proceed => order.hear settings notification provider

end Paydesk
