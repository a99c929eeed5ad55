/-
**Both stores find the same orders.**

A query selects rows by a condition, sorts them by their columns and reads the documents of one
window. Each step does to the rows what the store in memory does to their orders seen in whole
milliseconds: conditions select alike, columns sort alike, and a window cuts alike. A query that
looks at no time does not see the milliseconds.

* `forall₂_mergeSort`: related lists sorted alike are related;
* `Order.IsQueryable`: income in cents, texts that are searched as they are, numbers that are read;
* `OrderRow.order_eq`, `TableStore.precedes_eq`: the columns sort rows as the orders are sorted;
* `TableStore.Finds`: rows of a store and the orders that they were made of;
* `Finds.page`, `Finds.count_eq`, `Finds.search_eq`: **one query to both stores**;
* `queries_agree`: **after any changes, queries that look at no time have the same answers**.
-/

import Paydesk.Proofs.Decimal.Cents
import Paydesk.Proofs.Query.Sort
import Paydesk.Proofs.Store.Changes
import Paydesk.Query.Page

namespace Paydesk

/-! ### Related lists -/

section Related

variable {α β : Type} {Rel : α → β → Prop} {lefts : List α} {rights : List β}

/-- Related lists are related after both are sorted, if related items compare alike. -/
theorem forall₂_mergeSort {before : α → α → Bool} {precedes : β → β → Bool}
    (agree : ∀ {first second other third}, Rel first other → Rel second third →
      before first second = precedes other third)
    (related : List.Forall₂ Rel lefts rights) :
    List.Forall₂ Rel (lefts.mergeSort before) (rights.mergeSort precedes) := by
  obtain ⟨lengths, each⟩ := List.forall₂_iff_zip.mp related
  let pairs := lefts.zip rights
  let sorted := pairs.mergeSort fun first second => before first.1 second.1
  have sorted_lefts : sorted.map Prod.fst = lefts.mergeSort before :=
    calc sorted.map Prod.fst = (pairs.map Prod.fst).mergeSort before :=
          List.map_mergeSort fun first _ second _ => rfl
      _ = lefts.mergeSort before := by rw [List.map_fst_zip lengths.le]
  have sorted_rights : sorted.map Prod.snd = rights.mergeSort precedes :=
    calc sorted.map Prod.snd = (pairs.map Prod.snd).mergeSort precedes :=
          List.map_mergeSort fun first one second two => agree (each one) (each two)
      _ = rights.mergeSort precedes := by rw [List.map_snd_zip lengths.ge]
  rw [← sorted_lefts, ← sorted_rights, List.forall₂_map_left_iff, List.forall₂_map_right_iff,
    List.forall₂_same]
  exact fun pair member => each (List.mem_mergeSort.mp member)

end Related

/-! ### Orders that queries look at -/

namespace Order

/-- An order with a rounded income of 64 bits in minor units, whose texts are searched as they are
and whose numbers are read. -/
structure IsQueryable (order : Order) : Prop where
  rounded : ∃ value, order.projectIncome = .round value
  hasMinor : order.projectIncome.toMinor?.isSome
  isSearchable : order.IsSearchable
  isReadable : order.IsReadable

instance (order : Order) : Decidable order.IsQueryable :=
  decidable_of_iff
    (order.projectIncome = .round order.projectIncome.value
      ∧ order.projectIncome.toMinor?.isSome ∧ order.IsSearchable ∧ order.IsReadable)
    ⟨fun ⟨rounded, hasMinor, isSearchable, isReadable⟩ =>
        ⟨⟨_, rounded⟩, hasMinor, isSearchable, isReadable⟩,
      fun ⟨⟨value, rounded⟩, hasMinor, isSearchable, isReadable⟩ =>
        ⟨by rw [rounded, Amount.round_value_round], hasMinor, isSearchable, isReadable⟩⟩

theorem IsQueryable.atVersion (order : Order) (version : Int64) (queryable : order.IsQueryable) :
    IsQueryable { order with version } where
  rounded := queryable.rounded
  hasMinor := queryable.hasMinor
  isSearchable := queryable.isSearchable
  isReadable := ⟨queryable.isReadable.projectParams, queryable.isReadable.additional⟩

/-- The order that the document of an order is read as. -/
def readBack (order : Order) : Order := order.mapNumbers Amount.reread Decimal.reread

end Order

/-! ### Columns -/

namespace OrderRow

variable {row other : OrderRow} {order second : Order}

/-- The income of a row is that of its order, in cents. -/
theorem Keeps.hasCents (keeps : row.Keeps order)
    (rounded : ∃ value, order.projectIncome = .round value) :
    order.projectIncome.HasCents row.incomeMinor := by
  obtain ⟨income, version, fits, rfl⟩ := keeps.columns
  obtain ⟨value, income_eq⟩ := rounded
  rw [income_eq] at fits ⊢
  exact Amount.hasCents_round fits

/-- Columns compare as the attributes of the orders. -/
theorem orderBy_eq (one : row.Keeps order) (two : other.Keeps second)
    (rounded : ∃ value, order.projectIncome = .round value)
    (rounded_second : ∃ value, second.projectIncome = .round value) (key : SortKey) :
    TableStore.orderBy row other key = key.order order.inMillis second.inMillis := by
  have cents := (one.hasCents rounded).order_eq (two.hasCents rounded_second)
  obtain ⟨_, _, -, rfl⟩ := one.columns
  obtain ⟨_, _, -, rfl⟩ := two.columns
  cases key with
  | createdAt => exact (Instant.order_inMillis order.createdAt second.createdAt).symm
  | amount => exact cents.symm
  | status | projectName => rfl

/-- The row of an order is read as the order. -/
theorem Keeps.toOrder_eq (keeps : row.Keeps order) (readable : order.IsReadable) :
    row.toOrder = .ok order.readBack := by
  obtain ⟨income, version, -, rfl⟩ := keeps.columns
  have documented : Order.IsReadable { order with version } :=
    ⟨readable.projectParams, readable.additional⟩
  unfold toOrder
  rw [Order.read?_text_of_isReadable documented]
  rfl

end OrderRow

namespace TableStore

/-- **Rows are sorted by their columns as their orders, in whole milliseconds, by a query.** -/
theorem precedes_eq {row other : OrderRow} {order second : Order} (one : row.Keeps order)
    (two : other.Keeps second) (rounded : ∃ value, order.projectIncome = .round value)
    (rounded_second : ∃ value, second.projectIncome = .round value) (query : OrderQuery) :
    precedes query.sort row other = query.precedes order.inMillis second.inMillis := by
  have field_eq (field : SortField) :
      orderByField row other field = field.order order.inMillis second.inMillis := by
    unfold orderByField SortField.order
    rw [OrderRow.orderBy_eq one two rounded rounded_second]
  have ids : compare row.id other.id = compare order.inMillis.id second.inMillis.id := by
    rw [one.id, two.id]
    rfl
  unfold precedes OrderQuery.precedes OrderQuery.order
  simp only [field_eq, ids]

/-- The rows of the page that a query asks for. -/
def page (store : TableStore) (query : OrderQuery) : List OrderRow :=
  query.window ((store.rowsOf query.condition).mergeSort (precedes query.sort))

end TableStore

/-! ### One query -/

/-- A row was made of an order that queries may look at. -/
structure OrderRow.Answers (row : OrderRow) (order : Order) : Prop where
  keeps : row.Keeps order
  queryable : order.IsQueryable

/-- Rows of orders that queries may look at are read as these orders. -/
theorem OrderRow.mapM_toOrder {rows : List OrderRow} {orders : List Order}
    (answers : List.Forall₂ Answers rows orders) :
    rows.mapM toOrder = .ok (orders.map Order.readBack) := by
  induction answers with
  | nil => rfl
  | cons first rest hypothesis =>
    rw [List.mapM_cons, first.keeps.toOrder_eq first.queryable.isReadable, hypothesis]
    rfl

/-- The rows of an open store were made of the orders in memory, and queries may look at these. -/
structure TableStore.Answers (table : TableStore) (memory : MemoryStore) : Prop where
  isOpen : table.isClosed = false
  rows : List.Forall₂ OrderRow.Answers table.orders memory.orders

namespace TableStore.Answers

variable {table : TableStore} {memory : MemoryStore} {query : OrderQuery}

/-- A condition selects the rows of the orders that meet it. -/
theorem rowsOf (answers : table.Answers memory) {condition : Condition}
    (typed : condition.Every Condition.IsTyped) :
    List.Forall₂ OrderRow.Answers (table.rowsOf condition)
      (memory.orders.filter fun order => condition.holds order.inMillis) := by
  refine List.rel_filter ?_ answers.rows
  intro row order one
  simp only [OrderRow.isYes_check one.keeps one.queryable.isSearchable typed]

/-- The rows of a page are those of the orders that a query finds in whole milliseconds. -/
theorem page (answers : table.Answers memory) (typed : query.condition.Every Condition.IsTyped) :
    List.Forall₂ OrderRow.Answers (table.page query)
      (query.window ((memory.orders.filter fun order => query.condition.holds order.inMillis).mergeSort
        fun first second => query.precedes first.inMillis second.inMillis)) := by
  have sorted := forall₂_mergeSort (fun one two => TableStore.precedes_eq one.keeps two.keeps
    one.queryable.rounded two.queryable.rounded query) (answers.rowsOf typed)
  exact List.forall₂_take query.limit (List.forall₂_drop query.offset sorted)

theorem count_eq (answers : table.Answers memory) {condition : Condition}
    (typed : condition.Every Condition.IsTyped) :
    table.count condition
      = .ok (memory.orders.filter fun order => condition.holds order.inMillis).length := by
  rw [TableStore.count, TableStore.whenOpen_of_open answers.isOpen,
    (answers.rowsOf typed).length_eq]

/-- The documents of a page are read as the orders that a query finds in whole milliseconds. -/
theorem search_eq (answers : table.Answers memory)
    (typed : query.condition.Every Condition.IsTyped) :
    table.search query = .ok ((query.window
      ((memory.orders.filter fun order => query.condition.holds order.inMillis).mergeSort
        fun first second => query.precedes first.inMillis second.inMillis)).map Order.readBack) := by
  rw [TableStore.search, TableStore.whenOpen_of_open answers.isOpen]
  exact OrderRow.mapM_toOrder (answers.page typed)

/-- **Both stores after the same changes.** -/
theorem changed {changes : List StoreChange}
    (queryable : ∀ change ∈ changes, ∀ order ∈ change.order?, order.IsQueryable) :
    (OrderStore.changed TableStore.empty changes).Answers
      (OrderStore.changed MemoryStore.empty changes) := by
  have keeps := TableStore.Keeps.empty.changed fun change member order written =>
    (queryable change member order written).hasMinor
  have stored : ∀ order ∈ (OrderStore.changed MemoryStore.empty changes).orders, order.IsQueryable :=
    MemoryStore.forall_changed Order.IsQueryable.atVersion queryable
      fun order member => nomatch member
  have both := (List.forall₂_and_left _ _).mpr ⟨stored, keeps.rows.flip⟩
  exact ⟨keeps.isOpen, both.flip.imp fun row order pair => ⟨pair.2, pair.1⟩⟩

end TableStore.Answers

/-! ### Queries that look at no time -/

section Timeless

theorem Condition.holds_inMillis {condition : Condition} (timeless : condition.Every IsTimeless)
    (order : Order) : condition.holds order.inMillis = condition.holds order := by
  have same (field : OrderField) (other : field.kind ≠ .time) :
      field.valueOf order.inMillis = field.valueOf order := by
    cases field with
    | createdAt | methodClosedAt => exact absurd rfl other
    | _ => rfl
  refine eq_of_every (evaluates_holds order.inMillis) (evaluates_holds order) ?_ condition timeless
  rintro comparison ⟨field, looks, other⟩
  cases comparison <;> cases looks <;> rw [holds, holds, same field other]

theorem OrderQuery.precedes_inMillis {query : OrderQuery}
    (timeless : ∀ field ∈ query.sort, field.key ≠ .createdAt) (first second : Order) :
    query.precedes first.inMillis second.inMillis = query.precedes first second := by
  have same (field : SortField) (other : field.key ≠ .createdAt) :
      field.order first.inMillis second.inMillis = field.order first second := by
    have key_same : field.key.order first.inMillis second.inMillis
        = field.key.order first second := by
      cases key : field.key with
      | createdAt => exact absurd key other
      | status | projectName | amount => rfl
    unfold SortField.order
    rw [key_same]
  unfold precedes order
  rw [List.foldr_ext _ _ _ fun field member rest => by rw [same field (timeless field member)]]
  rfl

end Timeless

/-- What an envelope asks for, without date keys, sorted by keys other than the time, has one answer
in both stores. -/
theorem TableStore.Answers.search_eq_of_timeless {table : TableStore} {memory : MemoryStore}
    (answers : table.Answers memory) {query : OrderQuery}
    (typed : query.condition.Every Condition.IsTyped)
    (timeless : query.condition.Every Condition.IsTimeless)
    (untimed : ∀ field ∈ query.sort, field.key ≠ .createdAt) :
    table.search query = .ok ((memory.search query).map Order.readBack) := by
  rw [answers.search_eq typed]
  simp only [Condition.holds_inMillis timeless, OrderQuery.precedes_inMillis untimed]
  rfl

theorem PageRequest.query_condition (page : PageRequest) (condition : Condition) :
    (page.query condition).condition = condition := by
  unfold query OrderQuery.withSort
  split <;> rfl

/-- There is always a key to sort by. -/
theorem PageRequest.query_sort (page : PageRequest) (condition : Condition) :
    (page.query condition).sort = SortField.readAll page.sort := by
  have given : (SortField.readAll page.sort).isEmpty = false := by
    unfold SortField.readAll
    cases page.sort.filterMap SortField.read? <;> rfl
  unfold query OrderQuery.withSort
  rw [given]
  rfl

/-- **The two stores answer queries alike.** After whatever changes, for every envelope without date
keys, every list of accessible projects and every page that is not sorted by time:

* a row is selected exactly where its order meets the condition;
* both stores count the same number of orders;
* both return orders of the same ids in the same sequence. -/
theorem queries_agree (changes : List StoreChange) (envelope : Envelope) (accessible : List String)
    (page : PageRequest)
    (queryable : ∀ change ∈ changes, ∀ order ∈ change.order?, order.IsQueryable)
    (searchable : envelope.IsSearchable)
    (undated : ∀ key ∈ Envelope.dateKeys, envelope.get? key = none)
    (untimed : ∀ field ∈ SortField.readAll page.sort, field.key ≠ .createdAt) :
    let query := page.query (envelope.condition accessible)
    let table := OrderStore.changed TableStore.empty changes
    let memory := OrderStore.changed MemoryStore.empty changes
    List.Forall₂ (fun row order => row.id = order.id
        ∧ (row.check query.condition).isYes = query.condition.holds order)
      table.orders memory.orders
    ∧ table.count query.condition = .ok (memory.count query.condition)
    ∧ ∃ found, table.search query = .ok found
        ∧ found.map (·.id) = (memory.search query).map (·.id) := by
  intro query table memory
  have answers : table.Answers memory := .changed queryable
  have typed : query.condition.Every Condition.IsTyped := by
    rw [PageRequest.query_condition]
    exact Envelope.isTyped_condition accessible searchable
  have timeless : query.condition.Every Condition.IsTimeless := by
    rw [PageRequest.query_condition]
    exact Envelope.isTimeless_condition accessible undated
  have sort : ∀ field ∈ query.sort, field.key ≠ .createdAt := by
    rw [PageRequest.query_sort]
    exact untimed
  refine ⟨?_, ?_, ?_⟩
  · refine answers.rows.imp fun row order one => ⟨one.keeps.id, ?_⟩
    rw [OrderRow.isYes_check one.keeps one.queryable.isSearchable typed,
      Condition.holds_inMillis timeless]
  · rw [answers.count_eq typed]
    simp only [Condition.holds_inMillis timeless]
    rfl
  · refine ⟨_, answers.search_eq_of_timeless typed timeless sort, ?_⟩
    rw [List.map_map]
    rfl

/-- One of two orders has an account that holds the operator's wildcards and its escape. -/
def wildcardAccount : List StoreChange :=
  [.insert tenEuros, .insert { tenEuros with id := "second", projectAccount := "50%\\_" },
    .update tenEuros]

theorem queries_agree_wildcardAccount :
    let envelope : Envelope := Dict.empty.insert "account" ["%\\_"]
    let query := PageRequest.query { sort := ["-amount"] } (envelope.condition ["shop"])
    ∃ found, (OrderStore.changed TableStore.empty wildcardAccount).search query = .ok found
      ∧ found.map (·.id) = ["second"] := by
  intro envelope query
  obtain ⟨-, -, found, searched, ids⟩ := queries_agree wildcardAccount envelope ["shop"]
    { sort := ["-amount"] } (by decide +kernel) (by decide +kernel) (by decide +kernel)
    (by decide +kernel)
  exact ⟨found, searched, ids.trans (by decide +kernel)⟩

end Paydesk
