/-
**Sorted pages of orders.**

Orders are sorted by one key after another and at last by id, so that pages are stable.

* `SortField.read?`, `SortField.readAll`: keys with directions in text;
* `OrderQuery.order`: the order of two orders under a query.
-/

import Paydesk.Query.Condition

namespace Paydesk

/-- What orders can be sorted by. -/
inductive SortKey where
  | createdAt
  | status
  | projectName
  /-- The project's income. -/
  | amount
  deriving DecidableEq

/-- A key and its direction. -/
structure SortField where
  key : SortKey
  descending : Bool
  deriving DecidableEq

namespace SortKey

/-- The key of a name. -/
def ofName? : String → Option SortKey
  | "created_at" => some createdAt
  | "status" => some status
  | "project_name" => some projectName
  | "amount" => some amount
  | _ => none

/-- A key in one word. -/
def display : SortKey → String
  | createdAt => "CreatedAt"
  | status => "Status"
  | projectName => "ProjectName"
  | amount => "Amount"

/-- The order of two orders by a key. -/
def order (first second : Order) : SortKey → Ordering
  | createdAt => first.createdAt.order second.createdAt
  | status => compare first.status.code second.status.code
  | projectName => compare first.project.name second.project.name
  | amount => compare first.projectIncome second.projectIncome

end SortKey

namespace SortField

/-- Newest first. -/
def newest : SortField := ⟨.createdAt, true⟩

/-- A key, with a minus sign before it for the other direction. -/
def read? (token : String) : Option SortField :=
  match (Text.trimBlank token).toList with
  | '-' :: name => (SortKey.ofName? (String.ofList name)).map fun key => ⟨key, true⟩
  | name => (SortKey.ofName? (String.ofList name)).map fun key => ⟨key, false⟩

/-- Several keys; unknown ones are left aside, and without any the newest come first. -/
def readAll (tokens : List String) : List SortField :=
  match tokens.filterMap read? with
  | [] => [newest]
  | fields => fields

/-- The order of two orders by a key in its direction. -/
def order (first second : Order) (field : SortField) : Ordering :=
  if field.descending then (field.key.order first second).swap else field.key.order first second

end SortField

/-- A condition with the order and the window of the orders to return. -/
structure OrderQuery where
  condition : Condition
  sort : List SortField := [.newest]
  limit : Nat := 100
  offset : Nat := 0

namespace OrderQuery

/-- Sorts by keys, if there are any. -/
def withSort (query : OrderQuery) (sort : List SortField) : OrderQuery :=
  if sort.isEmpty then query else { query with sort }

/-- The order of two orders by the keys in turn and then by id. -/
def order (query : OrderQuery) (first second : Order) : Ordering :=
  (query.sort.foldr (fun field rest => (field.order first second).then rest)
    (compare first.id second.id))

/-- Whether one order comes no later than another. -/
def precedes (query : OrderQuery) (first second : Order) : Bool :=
  query.order first second != .gt

/-- Orders in a query's order. -/
def sorted (query : OrderQuery) (orders : List Order) : List Order :=
  orders.mergeSort query.precedes

/-- The window of a list. -/
def window {α : Type} (query : OrderQuery) (items : List α) : List α :=
  (items.drop query.offset).take query.limit

end OrderQuery

end Paydesk
