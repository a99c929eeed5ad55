/-
**What a store does.**

A store keeps orders and refunds. Every order has an id of its own. A change of an order names the
version that it is based on; it is taken only while that is the version in the store, and the
version then goes up by one. The last version there is stays the last.

* `Order.nextVersion`: an order with the version after its own;
* `OrderStore`: the requests that a store answers; none changes a store that refuses it.
-/

import Paydesk.Query.Sort
import Paydesk.Report.Figures
import Paydesk.Store.Error

namespace Paydesk

/-- An order with the version after its own, if there is one. -/
def Order.nextVersion (order : Order) : Except Overflow Order :=
  if order.version = Int64.maxValue then .error .counting
  else .ok { order with version := order.version + 1 }

/-- A store of orders and refunds. -/
class OrderStore (σ : Type) where
  /-- The address of the store. -/
  url : σ → String
  /-- The order of an id. -/
  fetch : σ → (id : String) → Except StoreError (Option Order)
  /-- The order that a project knows by an id of its own. -/
  fetchByClientId : σ → (projectId clientId : String) → Except StoreError (Option Order)
  /-- Adds an order, which is returned. -/
  insert : σ → Order → Except StoreError (Order × σ)
  /-- Replaces an order, which is returned with its new version. -/
  update : σ → Order → Except StoreError (Order × σ)
  /-- How many orders meet a condition. -/
  count : σ → Condition → Except StoreError Nat
  /-- A page of the orders that a query finds. -/
  search : σ → OrderQuery → Except StoreError (List Order)
  /-- Adds a refund. -/
  addRefund : σ → Refund → Except StoreError σ
  /-- The orders of a merchant that were completed and closed in the time of a report. -/
  settled : σ → ReportRequest → Except StoreError (List Order)
  /-- The refunds of a merchant in the time of a report. -/
  refunds : σ → ReportRequest → Except StoreError (List Refund)

end Paydesk
