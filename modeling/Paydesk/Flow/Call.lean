/-
**Calls that flows make.**

A flow asks other parties one question after another. A call names the question; its answer has a
type of its own.

* `Call.Answer`: what may come back.
-/

import Paydesk.Flow.Error

namespace Paydesk

/-- A question to another party. -/
inductive Call where
  /-- The project of an id. -/
  | project (id : String)
  /-- The payment method of an id. -/
  | method (id : String)
  /-- The currency of a code. -/
  | currency (code : String)
  /-- An amount of one currency in another. -/
  | convert (base quote : String) (amount : Amount)
  /-- The commission on an amount. -/
  | commission (projectId methodId : String) (amount : Amount)
  /-- The tax on an amount. -/
  | vat (country : String) (subdivision : Option String) (amount : Amount)
  /-- The place of an address. -/
  | locate (address : Address)
  /-- A payment for an order, from the handler of its method. -/
  | createPayment (order : Order) (settings : ProviderSettings) (requisites : Dict String String)
  /-- What a notification says about an order, from the handler of its method. -/
  | readNotification (order : Order) (settings : ProviderSettings) (notification : Notification)
  /-- The order of an id. -/
  | fetch (id : String)
  /-- The order that a project knows by an id of its own. -/
  | fetchByClientId (projectId clientId : String)
  /-- Adds an order to the store. -/
  | insert (order : Order)
  /-- Replaces an order in the store. -/
  | update (order : Order)
  /-- Hands a message to the broker. -/
  | publish (message : Message)
  /-- Tells the hooks of a new order. -/
  | announceCreated (order : Order)
  /-- Tells the hooks of an order that was settled for good. -/
  | announceFinalized (order : Order)
  /-- The time. -/
  | clock
  /-- An id that no order has. -/
  | newId

/-- What may come back from a call. -/
def Call.Answer : Call → Type
  | project _ => Except CatalogError (Option Project)
  | method _ => Except CatalogError (Option PaymentMethod)
  | currency _ => Except CatalogError (Option Currency)
  | convert _ _ _ => Except RateError Amount
  | commission _ _ _ => Except CommissionError Commission
  | vat _ _ _ => Except VatError Amount
  | locate _ => Except LocationError Location
  | createPayment _ _ _ => Except HandlerError PaymentResponse
  | readNotification _ _ _ => Except HandlerError PaymentResponse
  | fetch _ => Except StoreError (Option Order)
  | fetchByClientId _ _ => Except StoreError (Option Order)
  | insert _ => Except StoreError Order
  | update _ => Except StoreError Order
  | publish _ => Except BrokerError Unit
  | announceCreated _ => Unit
  | announceFinalized _ => Unit
  | clock => Instant
  | newId => String

end Paydesk
