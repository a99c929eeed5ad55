/-
**Flows at work.**

A world is a desk with a store, a broker and hooks. It answers every call of a flow: the desk's
tables, the time and the id it is given never change, and whatever a flow stores, publishes or
announces is in the world afterwards.

* `World.answer`: the answer to a call;
* `World.run`: a flow from its first call to its end.
-/

import Paydesk.Desk.Basic
import Paydesk.Event.Hooks
import Paydesk.Flow.Basic
import Paydesk.Store.Basic

namespace Paydesk

/-- A desk with a store, a broker and hooks. -/
structure World (σ : Type) where
  desk : Desk := .empty
  store : σ
  broker : Channel Message := {}
  hooks : Hooks := .none

namespace World

variable {σ : Type} [OrderStore σ]

/-- Puts the result of a change into the store. -/
def keep (result : Except StoreError (Order × σ)) :
    StateM (World σ) (Except StoreError Order) :=
  match result with
  | .error error => pure (.error error)
  | .ok (order, store) => do
    modify fun world => { world with store }
    return .ok order

/-- Hands a message to the broker. -/
def publish (message : Message) : StateM (World σ) (Except BrokerError Unit) := do
  match (← get).broker.deliver message with
  | .error error => return .error error
  | .ok broker =>
    modify fun world => { world with broker }
    return .ok ()

/-- The answer to a call at a time, with an id to give away. -/
def answer (now : Instant) (freshId : String) :
    (question : Call) → StateM (World σ) question.Answer
  | .project id => return .ok ((← get).desk.catalog.project? id)
  | .method id => return .ok ((← get).desk.catalog.method? id)
  | .currency code => return .ok ((← get).desk.catalog.currency? code)
  | .convert base quote amount => return (← get).desk.rates.convert base quote amount
  | .commission projectId methodId amount =>
    return (← get).desk.commissions.commission projectId methodId amount
  | .vat country subdivision amount => return (← get).desk.vat.vat country subdivision amount
  | .locate address => return (← get).desk.places.locate address
  | .createPayment order _ requisites =>
    return ((← get).desk.handlers.handler order).map (·.createPayment order requisites)
  | .readNotification order _ notification =>
    return ((← get).desk.handlers.handler order).map (·.readNotification order notification)
  | .fetch id => return OrderStore.fetch (← get).store id
  | .fetchByClientId projectId clientId =>
    return OrderStore.fetchByClientId (← get).store projectId clientId
  | .insert order => do keep (OrderStore.insert (← get).store order)
  | .update order => do keep (OrderStore.update (← get).store order)
  | .publish message => publish message
  | .announceCreated order =>
    modify fun world => { world with hooks := world.hooks.announceCreated order }
  | .announceFinalized order =>
    modify fun world => { world with hooks := world.hooks.announceFinalized order }
  | .clock => return now
  | .newId => return freshId

/-- A flow from its first call to its end. -/
def run {α : Type} (now : Instant) (freshId : String) (flow : Flow α) :
    StateM (World σ) (Except Stop α) :=
  flow.run (answer now freshId)

end World

end Paydesk
