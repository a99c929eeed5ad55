/-
**Payment handlers.**

A handler talks to a payment system. It creates a payment for an order and reads what the system
reports; it answers with a verdict and may hand back the order with its own fields filled in. The
handler of an order is found by the name that its payment method gives.

* `Verdict`, `PaymentResponse`: what a handler answers;
* `HandlerRegistry.handler`: the handler of an order.
-/

import Paydesk.Order.Basic
import Paydesk.Request.Basic
import Paydesk.Text.Quoted

namespace Paydesk

/-- How a request to a payment system went. -/
inductive Verdict where
  | accepted
  /-- Nothing is decided yet. -/
  | pending
  /-- The payment system finds the request invalid. -/
  | invalid
  /-- The payment system failed. -/
  | broken
  deriving DecidableEq

/-- The name of a verdict. -/
def Verdict.name : Verdict → String
  | accepted => "Ok"
  | pending => "Temporary"
  | invalid => "ErrorValidation"
  | broken => "ErrorSystem"

/-- What a handler answers. -/
structure PaymentResponse where
  verdict : Verdict
  message : String
  /-- The order as the handler leaves it. -/
  order : Option Order := none
  /-- Where to send the payer. -/
  redirectUrl : Option String := none
  deriving DecidableEq

/-- The settings of a provider by name, for handlers alone. -/
abbrev ProviderSettings : Type := Dict String String

/-- What talks to a payment system. -/
structure PaymentHandler where
  createPayment : Order → Dict String String → PaymentResponse
  readNotification : Order → Notification → PaymentResponse

/-- Why an order has no handler. -/
inductive HandlerError where
  | noMethod (orderId : String)
  | notFound (name : String)
  | badSettings (reason : String)
  deriving DecidableEq

/-- The text of an error. -/
def HandlerError.message : HandlerError → String
  | noMethod orderId => s!"Order {orderId} has no payment method"
  | notFound name => s!"No payment handler is registered under the name '{name}'"
  | badSettings reason => s!"Payment handler settings are invalid: {reason}"

/-- Handlers by name. -/
structure HandlerRegistry where
  handlers : Dict String PaymentHandler := ∅

namespace HandlerRegistry

/-- The registry without handlers. -/
def empty : HandlerRegistry := {}

/-- Registers a handler under a name. -/
def register (registry : HandlerRegistry) (name : String) (handler : PaymentHandler) :
    HandlerRegistry :=
  ⟨registry.handlers.insert name handler⟩

/-- The handler of an order. -/
def handler (registry : HandlerRegistry) (order : Order) : Except HandlerError PaymentHandler :=
  match order.handlerName? with
  | none => .error (.noMethod order.id)
  | some name =>
    match registry.handlers.get? name with
    | some handler => .ok handler
    | none => .error (.notFound name)

/-- The names of a registry, in order. -/
def display (registry : HandlerRegistry) : String :=
  s!"PaymentHandlerRegistry({Text.quoteAll registry.handlers.keys})"

end HandlerRegistry

end Paydesk
