/-
**The store in memory.**

Orders and refunds are kept as they are, in the order they were added; no two orders have one id.

* `MemoryStore.fetch`, `MemoryStore.insert`, `MemoryStore.update`: orders by id;
* `MemoryStore.search`: the orders that a query finds, sorted and cut to its window;
* `MemoryStore.settled`, `MemoryStore.refundsFor`: what reports are made of.
-/

import Paydesk.Store.Basic

namespace Paydesk

/-- The order of an id in a list. -/
def orderOf? (orders : List Order) (id : String) : Option Order := orders.find? (·.id == id)

theorem orderOf?_eq_none_iff {orders : List Order} {id : String} :
    orderOf? orders id = none ↔ ∀ order ∈ orders, order.id ≠ id := by
  simp [orderOf?, List.find?_eq_none]

/-- An order with a new id at the end of a list. -/
theorem nodup_append_order {orders : List Order} {order : Order}
    (distinct : (orders.map (·.id)).Nodup) (absent : orderOf? orders order.id = none) :
    ((orders ++ [order]).map (·.id)).Nodup := by
  rw [List.map_append, List.nodup_append]
  refine ⟨distinct, by simp, ?_⟩
  intro id member other last
  obtain ⟨stored, inside, rfl⟩ := List.mem_map.mp member
  rw [List.map_singleton, List.mem_singleton] at last
  rw [last]
  exact orderOf?_eq_none_iff.mp absent stored inside

/-- The orders with the one of an id replaced. -/
def replaceOrder (orders : List Order) (order : Order) : List Order :=
  orders.map fun stored => if stored.id == order.id then order else stored

theorem map_id_replaceOrder (orders : List Order) (order : Order) :
    (replaceOrder orders order).map (·.id) = orders.map (·.id) := by
  unfold replaceOrder
  rw [List.map_map]
  refine List.map_congr_left fun stored _ => ?_
  by_cases same : stored.id = order.id
  · simp [same]
  · simp [same]

/-- Orders and refunds in the order they were added. -/
structure MemoryStore where
  orders : List Order := []
  refunds : List Refund := []
  /-- No two orders have one id. -/
  distinct : (orders.map (·.id)).Nodup := by simp

namespace MemoryStore

/-- The store without orders. -/
def empty : MemoryStore := {}

/-- The order of an id. -/
def fetch (store : MemoryStore) (id : String) : Option Order := orderOf? store.orders id

/-- The order that a project knows by an id of its own. -/
def fetchByClientId (store : MemoryStore) (projectId clientId : String) : Option Order :=
  store.orders.find? fun order =>
    order.project.id == projectId && order.projectOrderId == some clientId

/-- Adds an order with a new id. -/
def insert (store : MemoryStore) (order : Order) : Except StoreError (Order × MemoryStore) :=
  match absent : store.fetch order.id with
  | some _ => .error (.taken order.id)
  | none =>
    .ok (order,
      { store with
        orders := store.orders ++ [order]
        distinct := nodup_append_order store.distinct absent })

/-- The store with an order in place of the one with its id. -/
def replace (store : MemoryStore) (order : Order) : MemoryStore :=
  { store with
    orders := replaceOrder store.orders order
    distinct := by rw [map_id_replaceOrder]; exact store.distinct }

/-- Replaces an order that was changed from the version in the store. -/
def update (store : MemoryStore) (order : Order) : Except StoreError (Order × MemoryStore) :=
  match store.fetch order.id with
  | none => .error (.missing order.id)
  | some stored =>
    if stored.version = order.version then do
      let next ← order.nextVersion.mapError .overflow
      return (next, store.replace next)
    else .error (.conflict order.id order.version stored.version)

/-- How many orders meet a condition. -/
def count (store : MemoryStore) (condition : Condition) : Nat :=
  (store.orders.filter fun order => condition.holds order).length

/-- The page of orders that a query asks for. -/
def search (store : MemoryStore) (query : OrderQuery) : List Order :=
  query.window (query.sorted (store.orders.filter fun order => query.condition.holds order))

/-- Adds a refund. -/
def addRefund (store : MemoryStore) (refund : Refund) : MemoryStore :=
  { store with refunds := store.refunds ++ [refund] }

/-- Whether an order was completed and closed as a report asks. -/
def isSettledFor (request : ReportRequest) (order : Order) : Bool :=
  order.status == .complete && order.merchantId == request.merchantId
    && order.methodClosedAt.any request.contains

/-- The orders that a report on revenue is made of. -/
def settled (store : MemoryStore) (request : ReportRequest) : List Order :=
  store.orders.filter (isSettledFor request)

/-- The refunds that a report is made of. -/
def refundsFor (store : MemoryStore) (request : ReportRequest) : List Refund :=
  store.refunds.filter fun refund =>
    refund.merchantId == request.merchantId && request.contains refund.createdAt

instance : OrderStore MemoryStore where
  url _ := "memory://"
  fetch store id := .ok (store.fetch id)
  fetchByClientId store projectId clientId := .ok (store.fetchByClientId projectId clientId)
  insert := insert
  update := update
  count store condition := .ok (store.count condition)
  search store query := .ok (store.search query)
  addRefund store refund := .ok (store.addRefund refund)
  settled store request := .ok (store.settled request)
  refunds store request := .ok (store.refundsFor request)

end MemoryStore

end Paydesk
