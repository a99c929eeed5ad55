/-
**The store in tables.**

Orders are rows in the order they were added, refunds are rows that name an order of the store.
Amounts of refunds are kept in text and times in milliseconds. A closed store refuses every
request.

* `TableStore.fetch`, `TableStore.insert`, `TableStore.update`: orders by id;
* `TableStore.search`: the rows that a query finds, sorted by their columns;
* `TableStore.settled`, `TableStore.refundsFor`: what reports are made of, by time.
-/

import Paydesk.Store.Basic
import Paydesk.Store.Row

namespace Paydesk

/-- A refund as a row. -/
structure RefundRow where
  orderId : String
  merchantId : String
  amount : String
  isChargeback : Bool
  createdAt : Int
  deriving DecidableEq

namespace RefundRow

/-- The row of a refund. -/
def ofRefund (refund : Refund) : RefundRow :=
  ⟨refund.orderId, refund.merchantId, refund.amount.write, refund.isChargeback,
    refund.createdAt.toMillis⟩

/-- The refund of a row. -/
def toRefund (row : RefundRow) : Except StoreError Refund :=
  match Amount.read row.amount with
  | .ok amount =>
    .ok ⟨row.orderId, row.merchantId, amount, row.isChargeback,
      (Instant.ofMillis? row.createdAt).getD .epoch⟩
  | .error error => .error (.badDocument error.message)

end RefundRow

/-- Rows of orders and of refunds in the order they were added. -/
structure TableStore where
  isClosed : Bool := false
  orders : List OrderRow := []
  refunds : List RefundRow := []

namespace TableStore

/-- The open store without rows. -/
def empty : TableStore := {}

/-- Why a closed store refuses. -/
def closedReason : String := "attempted to acquire a connection on a closed pool"

/-- Why a refund is refused whose order is not in the store. -/
def danglingReason : String :=
  "error returned from database: (code: 787) FOREIGN KEY constraint failed"

/-- The store for good. -/
def close (store : TableStore) : TableStore := { store with isClosed := true }

/-- Whatever an open store answers. -/
def whenOpen {α : Type} (store : TableStore) (answer : Except StoreError α) :
    Except StoreError α :=
  if store.isClosed then .error (.failed closedReason) else answer

/-- The row of an id. -/
def row? (store : TableStore) (id : String) : Option OrderRow :=
  store.orders.find? (·.id == id)

/-- The order of a row, if there is a row. -/
def orderOf : Option OrderRow → Except StoreError (Option Order)
  | some row => row.toOrder.map some
  | none => .ok none

/-- The order of an id. -/
def fetch (store : TableStore) (id : String) : Except StoreError (Option Order) :=
  store.whenOpen (orderOf (store.row? id))

/-- The order that a project knows by an id of its own. -/
def fetchByClientId (store : TableStore) (projectId clientId : String) :
    Except StoreError (Option Order) :=
  store.whenOpen <| orderOf <| store.orders.find? fun row =>
    row.projectId == projectId && row.projectOrderId == some clientId

/-- Adds an order with a new id. -/
def insert (store : TableStore) (order : Order) : Except StoreError (Order × TableStore) :=
  store.whenOpen do
    let row ← OrderRow.ofOrder order
    match store.row? order.id with
    | some _ => throw (.taken order.id)
    | none => return (order, { store with orders := store.orders ++ [row] })

/-- Whether a row is the one that a change is based on. -/
def isBaseOf (row stored : OrderRow) : Bool :=
  stored.id == row.id && stored.version == row.version

/-- How many rows a change is made to. -/
def touched (rows : List OrderRow) (row : OrderRow) : Nat := rows.countP (isBaseOf row)

/-- The rows after a change, which counts their version up. -/
def overwrite (rows : List OrderRow) (row : OrderRow) : List OrderRow :=
  rows.map fun stored =>
    if isBaseOf row stored then { row with version := stored.version + 1 } else stored

/-- The version of an id. -/
def version? (store : TableStore) (id : String) : Option Int64 :=
  (store.row? id).map (·.version)

/-- Changes the row of an order whose version is still in the store; where there is none, the
version in the store tells why. -/
def update (store : TableStore) (order : Order) : Except StoreError (Order × TableStore) :=
  store.whenOpen do
    let row ← OrderRow.ofOrder order
    if touched store.orders row = 0 then
      match store.version? order.id with
      | none => throw (.missing order.id)
      | some found => throw (.conflict order.id order.version found)
    else
      let next ← order.nextVersion.mapError .overflow
      return (next, { store with orders := overwrite store.orders row })

/-- The rows that meet a condition. -/
def rowsOf (store : TableStore) (condition : Condition) : List OrderRow :=
  store.orders.filter fun row => (row.check condition).isYes

/-- How many orders meet a condition. -/
def count (store : TableStore) (condition : Condition) : Except StoreError Nat :=
  store.whenOpen (.ok (store.rowsOf condition).length)

/-- The order of two rows by a key. -/
def orderBy (first second : OrderRow) : SortKey → Ordering
  | .createdAt => compare first.createdAt second.createdAt
  | .status => compare first.statusCode second.statusCode
  | .projectName => compare first.projectName second.projectName
  | .amount => compare first.incomeMinor second.incomeMinor

/-- The order of two rows by a key in its direction. -/
def orderByField (first second : OrderRow) (field : SortField) : Ordering :=
  if field.descending then (orderBy first second field.key).swap
  else orderBy first second field.key

/-- Whether one row comes no later than another: by the keys in turn and then by id. -/
def precedes (sort : List SortField) (first second : OrderRow) : Bool :=
  sort.foldr (fun field rest => (orderByField first second field).then rest)
    (compare first.id second.id) != .gt

/-- The page of orders that a query asks for. -/
def search (store : TableStore) (query : OrderQuery) : Except StoreError (List Order) :=
  store.whenOpen <|
    (query.window ((store.rowsOf query.condition).mergeSort (precedes query.sort))).mapM
      OrderRow.toOrder

/-- Adds a refund for an order of the store. -/
def addRefund (store : TableStore) (refund : Refund) : Except StoreError TableStore :=
  store.whenOpen <|
    match store.row? refund.orderId with
    | some _ => .ok { store with refunds := store.refunds ++ [RefundRow.ofRefund refund] }
    | none => .error (.failed danglingReason)

/-- Whether a time in milliseconds lies in the time of a report. -/
def isWithin (request : ReportRequest) (millis : Int) : Bool :=
  request.least.toMillis ≤ millis && millis ≤ request.most.toMillis

/-- Whether a row was completed and closed as a report asks. -/
def isSettledFor (request : ReportRequest) (row : OrderRow) : Bool :=
  row.merchantId == request.merchantId && row.statusCode == Status.complete.code
    && row.methodClosedAt.any (isWithin request)

/-- The orders that a report on revenue is made of, by the time they were closed. -/
def settled (store : TableStore) (request : ReportRequest) : Except StoreError (List Order) :=
  store.whenOpen <|
    ((store.orders.filter (isSettledFor request)).mergeSort fun first second =>
      first.methodClosedAt.getD 0 ≤ second.methodClosedAt.getD 0).mapM OrderRow.toOrder

/-- The refunds that a report is made of, by time. -/
def refundsFor (store : TableStore) (request : ReportRequest) : Except StoreError (List Refund) :=
  store.whenOpen <|
    ((store.refunds.filter fun row =>
      row.merchantId == request.merchantId && isWithin request row.createdAt).mergeSort
        fun first second => first.createdAt ≤ second.createdAt).mapM RefundRow.toRefund

instance : OrderStore TableStore where
  url _ := "sqlite::memory:"
  fetch := fetch
  fetchByClientId := fetchByClientId
  insert := insert
  update := update
  count := count
  search := search
  addRefund := addRefund
  settled := settled
  refunds := refundsFor

end TableStore

end Paydesk
