/-
**Pages of orders for merchants.**

A merchant sees the orders of accessible projects: how many meet a query, and a page of them.

* `findOrders`: a page with the number of all orders found;
* `fetchView`: one order by its id.
-/

import Paydesk.Order.View
import Paydesk.Query.Envelope
import Paydesk.Store.Basic

namespace Paydesk

/-- What a page is asked for with. -/
structure PageRequest where
  /-- Keys to sort by, as they are written. -/
  sort : List String := []
  limit : Option Nat := none
  offset : Nat := 0

/-- The request of a document; the first page starts at the first order. -/
def PageRequest.read? (json : Json) : Option PageRequest := do
  let read {α : Type} (name : String) (read : Json → Option α) : Option (Option α) :=
    Json.readOption? read ((json.field? name).getD .null)
  let sort ← read "sort" (Json.readList? Json.text?)
  let limit ← read "limit" Json.readNat64?
  let offset ← read "offset" Json.readNat64?
  return { sort := sort.getD [], limit, offset := offset.getD 0 }

/-- A page of orders and the number of all orders found. -/
structure OrderPage where
  count : Nat
  items : List OrderView

/-- The text of a store's error as queries and reports give it. -/
def queryMessage (error : StoreError) : String := s!"Database error: {error.message}"

/-- The query of a page. -/
def PageRequest.query (page : PageRequest) (condition : Condition) : OrderQuery :=
  let query := OrderQuery.withSort { condition } (SortField.readAll page.sort)
  { query with limit := page.limit.getD query.limit, offset := page.offset }

/-- The page of a query over the orders of accessible projects. -/
def findOrders {σ : Type} [OrderStore σ] (store : σ) (envelope : Envelope)
    (accessible : List String) (page : PageRequest) : Except StoreError OrderPage := do
  let query := page.query (envelope.condition accessible)
  let count ← OrderStore.count store query.condition
  let orders ← OrderStore.search store query
  return ⟨count, orders.map OrderView.ofOrder⟩

/-- What a merchant sees of the order of an id. -/
def fetchView {σ : Type} [OrderStore σ] (store : σ) (id : String) :
    Except StoreError (Option OrderView) := do
  return (← OrderStore.fetch store id).map OrderView.ofOrder

end Paydesk
