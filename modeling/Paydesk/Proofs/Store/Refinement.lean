/-
**The store in tables does what the store in memory does.**

Callers insert, update and fetch orders by id. A row keeps the version of its order in a column;
the document beside it is one version behind after every change, but what is read of a row has the
column's version. So a row stands for an order of the store in memory: the same but for how its
amounts show.

* `StoreRequest`, `OrderStore.answers`: the answers of any store to one request after another;
* `Order.IsStorable`: the orders that have a row and are read back from it;
* `OrderRow.Shows`, `TableStore.Mirrors`: a row stands for an order, and rows for a store;
* `Agree`: two stores give equal orders or refuse for the same reason;
* `touched_eq_zero_iff`, `overwrite_rel`: a change of rows is the change of one order;
* `Mirrors.ask`: one request to both stores;
* `answers_agree`: **the two stores agree on every answer**, whatever they are asked in turn.
-/

import Paydesk.Flow.NewOrder
import Paydesk.Proofs.Order.Document
import Paydesk.Proofs.Store.Serve
import Paydesk.Store.Table

namespace Paydesk

/-! ### Requests -/

/-- What callers ask of a store about orders by id. -/
inductive StoreRequest where
  | insert (order : Order)
  | update (order : Order)
  | fetch (id : String)

/-- The order that a store gives out, if any, or why it refuses. -/
abbrev StoreAnswer : Type := Except StoreError (Option Order)

namespace OrderStore

variable {σ : Type}

/-- An order that was written and the store after it; a store that refuses stays as it was. -/
def written (store : σ) : Except StoreError (Order × σ) → StoreAnswer × σ
  | .ok (order, after) => (.ok (some order), after)
  | .error error => (.error error, store)

variable [OrderStore σ]

/-- The answer to a request and the store after it. -/
def ask (store : σ) : StoreRequest → StoreAnswer × σ
  | .insert order => written store (insert store order)
  | .update order => written store (update store order)
  | .fetch id => (fetch store id, store)

/-- The answers to one request after another. -/
def answers (store : σ) : List StoreRequest → List StoreAnswer
  | [] => []
  | request :: rest => (ask store request).1 :: answers (ask store request).2 rest

end OrderStore

/-- Two answers with equal orders, or with the same reason to refuse. -/
inductive Agree : StoreAnswer → StoreAnswer → Prop where
  | absent : Agree (.ok none) (.ok none)
  | found {first second : Order} (same : first.Same second)
    (version : first.version = second.version) : Agree (.ok (some first)) (.ok (some second))
  | taken (id : String) : Agree (.error (.taken id)) (.error (.taken id))
  | missing (id : String) : Agree (.error (.missing id)) (.error (.missing id))
  | conflict (id : String) (expected found : Int64) :
    Agree (.error (.conflict id expected found)) (.error (.conflict id expected found))

/-! ### Writes of the store in memory -/

theorem Order.nextVersion_of_lt {order : Order} (hasNext : order.version < Int64.maxValue) :
    order.nextVersion = .ok { order with version := order.version + 1 } :=
  if_neg fun last => Int64.lt_irrefl (last ▸ hasNext)

namespace MemoryStore

variable {store : MemoryStore} {order known : Order}

theorem insert_taken (found : store.fetch order.id = some known) :
    store.insert order = .error (.taken order.id) := by
  unfold insert
  split
  · rfl
  · rename_i absent
    exact absurd (found.symm.trans absent) (Option.some_ne_none known)

theorem insert_absent (absent : store.fetch order.id = none) :
    ∃ after, store.insert order = .ok (order, after) ∧ after.orders = store.orders ++ [order] := by
  unfold insert
  split
  · rename_i found
    exact absurd (found.symm.trans absent) (Option.some_ne_none _)
  · exact ⟨_, rfl, rfl⟩

theorem update_missing (absent : store.fetch order.id = none) :
    store.update order = .error (.missing order.id) := by
  unfold update
  rw [absent]

theorem update_stale (found : store.fetch order.id = some known)
    (stale : known.version ≠ order.version) :
    store.update order = .error (.conflict order.id order.version known.version) := by
  unfold update
  rw [found]
  exact if_neg stale

theorem update_current (found : store.fetch order.id = some known)
    (current : known.version = order.version) (hasNext : order.version < Int64.maxValue) :
    store.update order
      = .ok ({ order with version := order.version + 1 },
          store.replace { order with version := order.version + 1 }) := by
  unfold update
  rw [found, order.nextVersion_of_lt hasNext]
  exact if_pos current

end MemoryStore

/-! ### Writes of the store in tables -/

namespace TableStore

variable {store : TableStore} {order : Order} {row stored : OrderRow}

theorem whenOpen_of_open {α : Type} (isOpen : store.isClosed = false)
    (answer : Except StoreError α) : store.whenOpen answer = answer := by
  simp [whenOpen, isOpen]

section Made

variable (isOpen : store.isClosed = false) (made : OrderRow.ofOrder order = .ok row)

include isOpen made

theorem insert_taken (found : store.row? order.id = some stored) :
    store.insert order = .error (.taken order.id) := by
  unfold insert
  rw [whenOpen_of_open isOpen, made, found]
  rfl

theorem insert_absent (absent : store.row? order.id = none) :
    store.insert order = .ok (order, { store with orders := store.orders ++ [row] }) := by
  unfold insert
  rw [whenOpen_of_open isOpen, made, absent]
  rfl

theorem update_missing (untouched : touched store.orders row = 0)
    (absent : store.row? order.id = none) : store.update order = .error (.missing order.id) := by
  unfold update version?
  rw [whenOpen_of_open isOpen, made, absent]
  exact if_pos untouched

theorem update_stale (untouched : touched store.orders row = 0)
    (found : store.row? order.id = some stored) :
    store.update order = .error (.conflict order.id order.version stored.version) := by
  unfold update version?
  rw [whenOpen_of_open isOpen, made, found]
  exact if_pos untouched

theorem update_current (based : touched store.orders row ≠ 0)
    (hasNext : order.version < Int64.maxValue) :
    store.update order
      = .ok ({ order with version := order.version + 1 },
          { store with orders := overwrite store.orders row }) := by
  unfold update
  rw [whenOpen_of_open isOpen, made, order.nextVersion_of_lt hasNext]
  exact if_neg based

end Made

end TableStore

/-! ### Rows -/

/-- An order whose income is a number of 64 bits in minor units, that has a version after its own,
and whose parameters are read back as they are. -/
structure Order.IsStorable (order : Order) : Prop where
  hasMinor : order.projectIncome.toMinor?.isSome
  hasNext : order.version < Int64.maxValue
  isExact : order.IsExact

instance (order : Order) : Decidable order.IsStorable :=
  decidable_of_iff
    (order.projectIncome.toMinor?.isSome ∧ order.version < Int64.maxValue ∧ order.IsExact)
    ⟨fun all => ⟨all.1, all.2.1, all.2.2⟩,
      fun storable => ⟨storable.hasMinor, storable.hasNext, storable.isExact⟩⟩

/-- The order of a request, if there is one, is such an order. -/
def StoreRequest.IsStorable : StoreRequest → Prop
  | .insert order | .update order => order.IsStorable
  | .fetch _ => True

instance : DecidablePred StoreRequest.IsStorable
  | .insert order | .update order => inferInstanceAs (Decidable order.IsStorable)
  | .fetch _ => isTrue trivial

namespace OrderRow

/-- A row stands for an order. -/
structure Shows (row : OrderRow) (order : Order) : Prop where
  id : row.id = order.id
  version : row.version = order.version
  document : row.toOrder = .ok order.reread

/-- A row stands for an order at any version that both are given. -/
theorem Shows.atVersion {row : OrderRow} {order : Order} (shows : row.Shows order)
    (version : Int64) : Shows { row with version } { order with version } := by
  refine ⟨shows.id, rfl, ?_⟩
  have document := shows.document
  unfold toOrder at document ⊢
  cases read : Json.read? row.document >>= Order.read? with
  | none =>
    rw [read] at document
    nomatch document
  | some known =>
    rw [read] at document
    have same := Except.ok.inj document
    exact congrArg (fun order : Order => Except.ok { order with version }) same

/-- An order has a row, which stands for it. -/
theorem shows_ofOrder {order : Order} (storable : order.IsStorable) :
    ∃ row, ofOrder order = .ok row ∧ row.Shows order := by
  obtain ⟨minor, hasMinor⟩ := Option.isSome_iff_exists.mp storable.hasMinor
  have text := Order.read?_text storable.isExact
  unfold ofOrder
  rw [hasMinor]
  refine ⟨_, rfl, rfl, rfl, ?_⟩
  simp only [toOrder, text]
  rfl

/-- A row has the id and the version of an order. -/
structure Labels (row : OrderRow) (order : Order) : Prop where
  id : row.id = order.id
  version : row.version = order.version

theorem Shows.labels {row : OrderRow} {order : Order} (shows : row.Shows order) :
    row.Labels order :=
  ⟨shows.id, shows.version⟩

section Rows

variable {Rel : OrderRow → Order → Prop} {rows : List OrderRow} {orders : List Order}

/-- Of rows that stand for orders, the one of an id stands for the order of that id. -/
theorem find?_rel (labels : ∀ {row order}, Rel row order → row.Labels order)
    (related : List.Forall₂ Rel rows orders) (id : String) :
    Option.Rel Rel (rows.find? (·.id == id)) (orders.find? (·.id == id)) := by
  induction related with
  | nil => exact .none
  | @cons row order rows orders first rest hypothesis =>
    by_cases named : order.id = id
    · have found : row.id = id := (labels first).id.trans named
      simpa [found, named] using Option.Rel.some first
    · have other : row.id ≠ id := (labels first).id ▸ named
      simpa [other, named] using hypothesis

variable {row : OrderRow} {order : Order}

/-- A change is made to no row where no order of its id has the version it is based on. -/
theorem touched_eq_zero_iff (labels : List.Forall₂ Labels rows orders) (given : row.Labels order) :
    TableStore.touched rows row = 0
      ↔ ∀ known ∈ orders, known.id = order.id → known.version ≠ order.version := by
  unfold TableStore.touched
  induction labels with
  | nil => simp
  | @cons stored known rows orders first rest hypothesis =>
    rw [List.countP_eq_zero] at hypothesis ⊢
    rw [List.forall_mem_cons, List.forall_mem_cons, hypothesis]
    simp [TableStore.isBaseOf, first.id, first.version, given.id, given.version]

/-- Rows stand for orders after one of each is changed, if every order of its id has the version
that the change is based on. -/
theorem overwrite_rel (labels : ∀ {row order}, Rel row order → row.Labels order)
    (related : List.Forall₂ Rel rows orders) (given : row.Labels order)
    (changed : Rel { row with version := order.version + 1 }
      { order with version := order.version + 1 })
    (base : ∀ known ∈ orders, known.id = order.id → known.version = order.version) :
    List.Forall₂ Rel (TableStore.overwrite rows row)
      (replaceOrder orders { order with version := order.version + 1 }) := by
  induction related with
  | nil => exact .nil
  | @cons stored known rows orders first rest hypothesis =>
    rw [List.forall_mem_cons] at base
    refine .cons ?_ (hypothesis base.2)
    have label := labels first
    by_cases named : known.id = order.id
    · have version : known.version = order.version := base.1 named
      have based : TableStore.isBaseOf row stored = true := by
        simp [TableStore.isBaseOf, label.id, label.version, given.id, given.version, named, version]
      simpa [based, named, label.version, version] using changed
    · have other : TableStore.isBaseOf row stored = false := by
        simp [TableStore.isBaseOf, label.id, given.id, named]
      simpa [other, named] using first

end Rows

end OrderRow

/-! ### Stores -/

/-- The rows of an open store stand for the orders of a store in memory, one for one. -/
structure TableStore.Mirrors (table : TableStore) (memory : MemoryStore) : Prop where
  isOpen : table.isClosed = false
  rows : List.Forall₂ OrderRow.Shows table.orders memory.orders

/-- Both stores gave an answer that they agree on, and the rows stand for the orders afterwards. -/
structure GoOnAlike (table : StoreAnswer × TableStore) (memory : StoreAnswer × MemoryStore) :
    Prop where
  agree : Agree table.1 memory.1
  mirrors : table.2.Mirrors memory.2

namespace TableStore.Mirrors

open OrderStore

variable {table : TableStore} {memory : MemoryStore}

theorem empty : TableStore.empty.Mirrors MemoryStore.empty := ⟨rfl, .nil⟩

/-- Both stores have an order of an id, or neither has. -/
theorem lookup (mirrors : table.Mirrors memory) (id : String) :
    Option.Rel OrderRow.Shows (table.row? id) (memory.fetch id) :=
  OrderRow.find?_rel OrderRow.Shows.labels mirrors.rows id

theorem fetch (mirrors : table.Mirrors memory) (id : String) :
    Agree (table.fetch id) (.ok (memory.fetch id)) := by
  unfold TableStore.fetch
  rw [TableStore.whenOpen_of_open mirrors.isOpen]
  have found := mirrors.lookup id
  generalize table.row? id = row at found
  generalize memory.fetch id = order at found
  cases found with
  | none => exact .absent
  | @some row order shows =>
    have read : TableStore.orderOf (some row) = .ok (some order.reread) := by
      change row.toOrder.map some = _
      rw [shows.document]
      rfl
    rw [read]
    exact .found order.same_reread rfl

theorem insert (mirrors : table.Mirrors memory) {order : Order} (storable : order.IsStorable) :
    GoOnAlike (written table (table.insert order)) (written memory (memory.insert order)) := by
  obtain ⟨row, made, shows⟩ := OrderRow.shows_ofOrder storable
  have found := mirrors.lookup order.id
  cases inTable : table.row? order.id <;> cases inMemory : memory.fetch order.id <;>
    rw [inTable, inMemory] at found
  case some.some stored known =>
    rw [TableStore.insert_taken mirrors.isOpen made inTable, MemoryStore.insert_taken inMemory]
    exact ⟨.taken order.id, mirrors⟩
  case none.none =>
    obtain ⟨after, inserted, orders⟩ := MemoryStore.insert_absent inMemory
    rw [TableStore.insert_absent mirrors.isOpen made inTable, inserted]
    have rows : List.Forall₂ OrderRow.Shows (table.orders ++ [row]) after.orders :=
      orders ▸ List.rel_append mirrors.rows (.cons shows .nil)
    exact ⟨.found (.refl order) rfl, mirrors.isOpen, rows⟩
  all_goals nomatch found

theorem update (mirrors : table.Mirrors memory) {order : Order} (storable : order.IsStorable) :
    GoOnAlike (written table (table.update order)) (written memory (memory.update order)) := by
  obtain ⟨row, made, shows⟩ := OrderRow.shows_ofOrder storable
  have found := mirrors.lookup order.id
  have touched := OrderRow.touched_eq_zero_iff
    (mirrors.rows.imp fun _ _ => OrderRow.Shows.labels) shows.labels
  cases inTable : table.row? order.id <;> cases inMemory : memory.fetch order.id <;>
    rw [inTable, inMemory] at found
  case none.none =>
    have untouched := touched.mpr fun known member named =>
      absurd named (MemoryStore.fetch_eq_none_iff.mp inMemory known member)
    rw [TableStore.update_missing mirrors.isOpen made untouched inTable,
      MemoryStore.update_missing inMemory]
    exact ⟨.missing order.id, mirrors⟩
  case some.some stored known =>
    obtain ⟨inside, knownId⟩ := MemoryStore.fetch_eq_some_iff.mp inMemory
    have only : ∀ other ∈ memory.orders, other.id = order.id → other = known :=
      fun _ member named => MemoryStore.eq_of_id member inside (named.trans knownId.symm)
    by_cases current : known.version = order.version
    · have base : ∀ other ∈ memory.orders, other.id = order.id → other.version = order.version :=
        fun other member named => only other member named ▸ current
      have based : TableStore.touched table.orders row ≠ 0 := fun untouched =>
        touched.mp untouched known inside knownId current
      rw [TableStore.update_current mirrors.isOpen made based storable.hasNext,
        MemoryStore.update_current inMemory current storable.hasNext]
      exact ⟨.found (.refl _) rfl, mirrors.isOpen, OrderRow.overwrite_rel OrderRow.Shows.labels
        mirrors.rows shows.labels (shows.atVersion (order.version + 1)) base⟩
    · have untouched := touched.mpr fun other member named =>
        only other member named ▸ current
      obtain ⟨⟨_, version, _⟩⟩ := found
      rw [TableStore.update_stale mirrors.isOpen made untouched inTable,
        MemoryStore.update_stale inMemory current, version]
      exact ⟨.conflict order.id order.version known.version, mirrors⟩
  all_goals nomatch found

/-- **One request to both stores**: they agree, and the rows still stand for the orders. -/
theorem ask (mirrors : table.Mirrors memory) {request : StoreRequest}
    (storable : request.IsStorable) :
    GoOnAlike (OrderStore.ask table request) (OrderStore.ask memory request) := by
  cases request with
  | insert order => exact mirrors.insert storable
  | update order => exact mirrors.update storable
  | fetch id => exact ⟨mirrors.fetch id, mirrors⟩

/-- One request after another to both stores. -/
theorem answers (mirrors : table.Mirrors memory) {requests : List StoreRequest}
    (storable : ∀ request ∈ requests, request.IsStorable) :
    List.Forall₂ Agree (OrderStore.answers table requests)
      (OrderStore.answers memory requests) := by
  induction requests generalizing table memory with
  | nil => exact .nil
  | cons request requests hypothesis =>
    rw [List.forall_mem_cons] at storable
    obtain ⟨agree, after⟩ := mirrors.ask storable.1
    exact .cons agree (hypothesis after storable.2)

end TableStore.Mirrors

/-- **The two stores agree on every answer.** -/
theorem answers_agree (requests : List StoreRequest)
    (storable : ∀ request ∈ requests, request.IsStorable) :
    List.Forall₂ Agree (OrderStore.answers TableStore.empty requests)
      (OrderStore.answers MemoryStore.empty requests) :=
  TableStore.Mirrors.empty.answers storable

/-! ### One order -/

/-- An order of ten euros with parameters to be passed through. -/
def tenEuros : Order :=
  let project : Project :=
    { id := "shop", merchant := ⟨"merchant", "Merchant", "EUR", false, false⟩, name := "Shop"
      isActive := true, secretKey := ⟨""⟩, callbackProtocol := "default"
      callbackCurrency := "EUR", limitsCurrency := "EUR", least := .zero, most := .ofInt 100
      allowsNotifyUrls := false, allowsRedirectUrls := false, urlSuccess := none, urlFail := none
      urlCheckAccount := none, urlProcessPayment := none, sendsNotifyEmail := false
      notifyEmails := ["shop@example.com"], methods := ∅, packages := ∅ }
  let params : Params := (Dict.empty.insert "visit" (.whole 7)).insert "page" (.text "\"offers\"")
  let intake : Intake := ⟨project, ⟨978, "EUR", "Euro", true⟩, none, {}, none, params⟩
  intake.build { projectId := "shop", amount := .ofInt 10, account := "payer" } "first"
    .epoch (.ofInt 10) (.ofInt 10)

/-- The order is added twice and changed twice, and orders are fetched in between. -/
def twiceEach : List StoreRequest :=
  [.insert tenEuros, .insert tenEuros, .fetch "first", .update tenEuros, .update tenEuros,
    .fetch "first", .fetch "second"]

theorem answers_agree_twiceEach :
    (∀ request ∈ twiceEach, request.IsStorable)
      ∧ List.Forall₂ Agree (OrderStore.answers TableStore.empty twiceEach)
          (OrderStore.answers MemoryStore.empty twiceEach)
      ∧ OrderStore.answers MemoryStore.empty twiceEach
        = [.ok (some tenEuros), .error (.taken "first"), .ok (some tenEuros),
          .ok (some { tenEuros with version := 1 }), .error (.conflict "first" 0 1),
          .ok (some { tenEuros with version := 1 }), .ok none] := by
  have storable : ∀ request ∈ twiceEach, request.IsStorable := by decide +kernel
  exact ⟨storable, answers_agree twiceEach storable, by rfl⟩

end Paydesk
