/-
**Stores that fail.**

A faulty store answers as the store inside it does, unless the request has been made to fail by its
name.

* `FaultyStore`: a store with outages.
-/

import Paydesk.Simulation.Outage
import Paydesk.Store.Basic

namespace Paydesk

/-- A store with outages. -/
structure FaultyStore (σ : Type) where
  inner : σ
  outages : Outages := ∅

namespace FaultyStore

variable {σ : Type} [OrderStore σ]

/-- An answer, unless the request fails. -/
def guard {α : Type} (store : FaultyStore σ) (service : String) (answer : Except StoreError α) :
    Except StoreError α :=
  match store.outages.get? service with
  | some reason => .error (.failed reason)
  | none => answer

/-- The store with a change kept. -/
def keep (store : FaultyStore σ) (change : Order × σ) : Order × FaultyStore σ :=
  (change.1, { store with inner := change.2 })

instance : OrderStore (FaultyStore σ) where
  url store := OrderStore.url store.inner
  fetch store id := store.guard "fetch" (OrderStore.fetch store.inner id)
  fetchByClientId store projectId clientId :=
    store.guard "by_client_id" (OrderStore.fetchByClientId store.inner projectId clientId)
  insert store order :=
    store.guard "insert" ((OrderStore.insert store.inner order).map store.keep)
  update store order :=
    store.guard "update" ((OrderStore.update store.inner order).map store.keep)
  count store condition := store.guard "count" (OrderStore.count store.inner condition)
  search store query := store.guard "search" (OrderStore.search store.inner query)
  addRefund store refund :=
    store.guard "refund"
      ((OrderStore.addRefund store.inner refund).map fun inner => { store with inner })
  settled store request := OrderStore.settled store.inner request
  refunds store request := OrderStore.refunds store.inner request

end FaultyStore

end Paydesk
