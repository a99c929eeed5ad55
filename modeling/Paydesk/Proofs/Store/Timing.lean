/-
**Times in the store in tables.**

The columns of the store in tables know times in whole milliseconds only. So it answers queries as
the store in memory would, were all its times cut to milliseconds: ranges, sort keys and the time of
a report included. Where all times are whole milliseconds, that is the store in memory itself.

* `MemoryStore.inMillis`: the store in memory with its times cut;
* `TableStore.Answers.search_inMillis`, `TableStore.Answers.count_inMillis`: **queries, whatever
  they ask of times**;
* `TableStore.isWithin_eq`: the time of a report;
* `TableStore.Answers.settled_eq`: the orders that a report is made of.
-/

import Paydesk.Proofs.Store.Search

namespace Paydesk

/-! ### Stores in milliseconds -/

/-- A refund with its time in whole milliseconds. -/
def Refund.inMillis (refund : Refund) : Refund :=
  { refund with createdAt := refund.createdAt.inMillis }

/-- A request for a report between times in whole milliseconds. -/
def ReportRequest.inMillis (request : ReportRequest) : ReportRequest :=
  { request with least := request.least.inMillis, most := request.most.inMillis }

namespace MemoryStore

/-- A store with all its times in whole milliseconds. -/
def inMillis (store : MemoryStore) : MemoryStore where
  orders := store.orders.map Order.inMillis
  refunds := store.refunds.map Refund.inMillis
  distinct := by
    rw [List.map_map]
    exact store.distinct

theorem found_inMillis (store : MemoryStore) (accept : Order → Bool) :
    store.inMillis.orders.filter accept
      = (store.orders.filter fun order => accept order.inMillis).map Order.inMillis :=
  List.filter_map

theorem search_inMillis (store : MemoryStore) (query : OrderQuery) :
    store.inMillis.search query
      = (query.window ((store.orders.filter fun order => query.condition.holds order.inMillis).mergeSort
          fun first second => query.precedes first.inMillis second.inMillis)).map Order.inMillis := by
  unfold search OrderQuery.sorted OrderQuery.window
  rw [found_inMillis, List.map_take, List.map_drop,
    List.map_mergeSort (f := Order.inMillis) fun first _ second _ => rfl]

end MemoryStore

/-! ### Queries -/

namespace TableStore.Answers

variable {table : TableStore} {memory : MemoryStore}

theorem count_inMillis (answers : table.Answers memory) {condition : Condition}
    (typed : condition.Every Condition.IsTyped) :
    table.count condition = .ok (memory.inMillis.count condition) := by
  rw [answers.count_eq typed, MemoryStore.count, MemoryStore.found_inMillis, List.length_map]

/-- **A page of the store in tables** holds the orders that the store in memory finds when all times
are cut to milliseconds. -/
theorem search_inMillis (answers : table.Answers memory) {query : OrderQuery}
    (typed : query.condition.Every Condition.IsTyped) :
    ∃ found : List Order, table.search query = .ok (found.map Order.readBack)
      ∧ found.map Order.inMillis = memory.inMillis.search query :=
  ⟨_, answers.search_eq typed, (memory.search_inMillis query).symm⟩

end TableStore.Answers

/-! ### Reports -/

/-- Milliseconds lie in the time of a report where the instant, cut to milliseconds, does. -/
theorem TableStore.isWithin_eq (request : ReportRequest) (instant : Instant) :
    isWithin request instant.toMillis = request.inMillis.contains instant.inMillis := by
  have atMost (first second : Instant) :
      first.inMillis.atMost second.inMillis = decide (first.toMillis ≤ second.toMillis) := by
    rw [Instant.atMost, Instant.order_inMillis, Bool.eq_iff_iff, bne_iff_ne, Ne, compare_gt_iff_gt,
      not_lt, decide_eq_true_iff]
  unfold ReportRequest.contains ReportRequest.inMillis
  rw [atMost, atMost]
  rfl

namespace OrderRow.Keeps

variable {row : OrderRow} {order : Order}

/-- A row is part of a report where its order, cut to milliseconds, is. -/
theorem isSettledFor_eq (keeps : row.Keeps order) (request : ReportRequest) :
    TableStore.isSettledFor request row
      = MemoryStore.isSettledFor request.inMillis order.inMillis := by
  have status : (order.status.code == Status.complete.code) = (order.status == .complete) := by
    cases order.status <;> decide
  have closed : (order.methodClosedAt.map Instant.toMillis).any (TableStore.isWithin request)
      = (order.methodClosedAt.map Instant.inMillis).any request.inMillis.contains := by
    cases order.methodClosedAt with
    | none => rfl
    | some instant => exact TableStore.isWithin_eq request instant
  obtain ⟨_, _, -, rfl⟩ := keeps.columns
  unfold TableStore.isSettledFor MemoryStore.isSettledFor
  rw [status, closed, Bool.and_comm (order.merchantId == _)]
  rfl

end OrderRow.Keeps

/-- The whole milliseconds at which an order was closed. -/
def Order.closedMillis (order : Order) : Int := (order.methodClosedAt.map Instant.toMillis).getD 0

namespace TableStore.Answers

variable {table : TableStore} {memory : MemoryStore}

/-- The orders that a report is made of, as the store in tables lists them. -/
theorem settled_eq (answers : table.Answers memory) (request : ReportRequest) :
    table.settled request = .ok (((memory.orders.filter fun order =>
      MemoryStore.isSettledFor request.inMillis order.inMillis).mergeSort
        fun first second => first.closedMillis ≤ second.closedMillis).map Order.readBack) := by
  have selected : List.Forall₂ OrderRow.Answers (table.orders.filter (isSettledFor request))
      (memory.orders.filter fun order =>
        MemoryStore.isSettledFor request.inMillis order.inMillis) := by
    refine List.rel_filter ?_ answers.rows
    intro row order one
    simp only [one.keeps.isSettledFor_eq]
  have closed {row : OrderRow} {order : Order} (one : row.Answers order) :
      row.methodClosedAt.getD 0 = order.closedMillis := by
    obtain ⟨_, _, -, rfl⟩ := one.keeps.columns
    rfl
  rw [settled, whenOpen_of_open answers.isOpen]
  exact OrderRow.mapM_toOrder
    (forall₂_mergeSort (fun one two => by rw [closed one, closed two]) selected)

end TableStore.Answers

end Paydesk
