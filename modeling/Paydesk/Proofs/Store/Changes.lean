/-
**Two stores after the same changes.**

Orders are added and changed and refunds are noted down, in both stores alike. A change that one
store refuses the other refuses too, and both stay as they were. So the rows of the store in tables
stay the rows of the orders in memory, in the same sequence, whatever the changes were.

* `StoreChange`, `OrderStore.changed`: changes, and a store after one after another;
* `MemoryStore.forall_change`: what holds of every order that is written holds of every order in
  memory;
* `TableStore.Keeps`: the rows were made of the orders in memory;
* `Keeps.insert`, `Keeps.update`, `Keeps.change`: one change to both stores;
* `Keeps.changed`: **one change after another to both stores**.
-/

import Paydesk.Proofs.Store.Selection

namespace Paydesk

/-! ### Changes -/

/-- What callers change in a store. -/
inductive StoreChange where
  | insert (order : Order)
  | update (order : Order)
  | refund (refund : Refund)

/-- The order that a change writes, if it writes one. -/
def StoreChange.order? : StoreChange → Option Order
  | insert order | update order => some order
  | refund _ => none

namespace OrderStore

variable {σ : Type} [OrderStore σ]

/-- A store after a change; one that refuses it stays as it was. -/
def change (store : σ) : StoreChange → σ
  | .insert order => (written store (insert store order)).2
  | .update order => (written store (update store order)).2
  | .refund refund => (addRefund store refund).toOption.getD store

/-- A store after one change after another. -/
def changed (store : σ) (changes : List StoreChange) : σ := changes.foldl change store

end OrderStore

/-- An order without a version after its own. -/
theorem Order.nextVersion_of_not_lt {order : Order} (last : ¬order.version < Int64.maxValue) :
    order.nextVersion = .error .counting :=
  if_pos (Int64.le_antisymm (Int64.le_maxValue _) (Int64.not_lt.mp last))

/-! ### The store in memory -/

namespace MemoryStore

open OrderStore

variable {memory : MemoryStore} {order known : Order}

/-- No version comes after the last one. -/
theorem update_last (found : memory.fetch order.id = some known)
    (current : known.version = order.version) (last : ¬order.version < Int64.maxValue) :
    memory.update order = .error (.overflow .counting) := by
  unfold update
  rw [found, order.nextVersion_of_not_lt last]
  exact if_pos current

/-- A change of an order is refused, or the order takes the place of the one with its id. -/
theorem update_cases (memory : MemoryStore) (order : Order) :
    (∃ error, memory.update order = .error error)
      ∨ memory.update order
        = .ok ({ order with version := order.version + 1 },
            memory.replace { order with version := order.version + 1 }) := by
  cases found : memory.fetch order.id with
  | none => exact Or.inl ⟨_, update_missing found⟩
  | some known =>
    by_cases current : known.version = order.version
    · by_cases hasNext : order.version < Int64.maxValue
      · exact Or.inr (update_current found current hasNext)
      · exact Or.inl ⟨_, update_last found current hasNext⟩
    · exact Or.inl ⟨_, update_stale found current⟩

/-- What holds of the orders in memory and of the order that is written, at any version, holds of
the orders afterwards. -/
theorem forall_change {accept : Order → Prop}
    (stable : ∀ order version, accept order → accept { order with version })
    {change : StoreChange} (given : ∀ order ∈ change.order?, accept order)
    (before : ∀ order ∈ memory.orders, accept order) :
    ∀ order ∈ (OrderStore.change memory change).orders, accept order := by
  cases change with
  | insert order =>
    change ∀ other ∈ (written memory (memory.insert order)).2.orders, accept other
    cases found : memory.fetch order.id with
    | some known =>
      rw [insert_taken found]
      exact before
    | none =>
      obtain ⟨after, inserted, orders⟩ := insert_absent found
      rw [inserted]
      intro other member
      change other ∈ after.orders at member
      rw [orders, List.mem_append, List.mem_singleton] at member
      rcases member with old | new
      · exact before other old
      · exact new ▸ given order rfl
  | update order =>
    change ∀ other ∈ (written memory (memory.update order)).2.orders, accept other
    rcases memory.update_cases order with ⟨error, refused⟩ | replaced
    · rw [refused]
      exact before
    · rw [replaced]
      intro other member
      obtain ⟨stored, inside, rfl⟩ := List.mem_map.mp member
      split
      · exact stable order _ (given order rfl)
      · exact before stored inside
  | refund refund => exact before

/-- What holds of every order that is written, at any version, holds of every order in memory. -/
theorem forall_changed {accept : Order → Prop}
    (stable : ∀ order version, accept order → accept { order with version })
    {changes : List StoreChange} (given : ∀ change ∈ changes, ∀ order ∈ change.order?, accept order)
    (before : ∀ order ∈ memory.orders, accept order) :
    ∀ order ∈ (changed memory changes).orders, accept order := by
  unfold changed
  induction changes generalizing memory with
  | nil => exact before
  | cons change changes hypothesis =>
    rw [List.forall_mem_cons] at given
    exact hypothesis given.2 (forall_change stable given.1 before)

end MemoryStore

/-! ### The store in tables -/

theorem TableStore.update_last {table : TableStore} {order : Order} {row : OrderRow}
    (isOpen : table.isClosed = false) (made : OrderRow.ofOrder order = .ok row)
    (based : touched table.orders row ≠ 0) (last : ¬order.version < Int64.maxValue) :
    table.update order = .error (.overflow .counting) := by
  unfold update
  rw [whenOpen_of_open isOpen, made, order.nextVersion_of_not_lt last]
  exact if_neg based

namespace OrderRow

theorem ofOrder_eq_ok {order : Order} (fits : order.projectIncome.toMinor?.isSome) :
    ∃ row, ofOrder order = .ok row := by
  obtain ⟨income, hasMinor⟩ := Option.isSome_iff_exists.mp fits
  unfold ofOrder
  rw [hasMinor]
  exact ⟨_, rfl⟩

/-- The row of an order keeps it. -/
theorem keeps_ofOrder {order : Order} {row : OrderRow} (made : ofOrder order = .ok row) :
    row.Keeps order := by
  have same_version : row.version = order.version := by
    unfold ofOrder at made
    split at made
    · nomatch made
    · cases made
      rfl
  have label : row = { row with version := order.version } := by rw [← same_version]
  exact ⟨same_version, order.version, made.trans (congrArg Except.ok label)⟩

/-- A row keeps an order at any version that both are given. -/
theorem Keeps.atVersion {row : OrderRow} {order : Order} (keeps : row.Keeps order)
    (version : Int64) : Keeps { row with version } { order with version } := by
  obtain ⟨-, documented, made⟩ := keeps
  exact ⟨rfl, documented, made⟩

end OrderRow

/-- The rows of an open store were made of the orders in memory, one for one. -/
structure TableStore.Keeps (table : TableStore) (memory : MemoryStore) : Prop where
  isOpen : table.isClosed = false
  rows : List.Forall₂ OrderRow.Keeps table.orders memory.orders

namespace TableStore.Keeps

open OrderStore

variable {table : TableStore} {memory : MemoryStore}

theorem empty : TableStore.empty.Keeps MemoryStore.empty := ⟨rfl, .nil⟩

/-- Both stores have an order of an id, or neither has. -/
theorem lookup (keeps : table.Keeps memory) (id : String) :
    Option.Rel OrderRow.Keeps (table.row? id) (memory.fetch id) :=
  OrderRow.find?_rel OrderRow.Keeps.labels keeps.rows id

theorem insert (keeps : table.Keeps memory) {order : Order}
    (fits : order.projectIncome.toMinor?.isSome) :
    (written table (table.insert order)).2.Keeps (written memory (memory.insert order)).2 := by
  obtain ⟨row, made⟩ := OrderRow.ofOrder_eq_ok fits
  have found := keeps.lookup order.id
  cases inTable : table.row? order.id <;> cases inMemory : memory.fetch order.id <;>
    rw [inTable, inMemory] at found
  case some.some stored known =>
    rw [TableStore.insert_taken keeps.isOpen made inTable, MemoryStore.insert_taken inMemory]
    exact keeps
  case none.none =>
    obtain ⟨after, inserted, orders⟩ := MemoryStore.insert_absent inMemory
    rw [TableStore.insert_absent keeps.isOpen made inTable, inserted]
    have kept := OrderRow.keeps_ofOrder made
    have rows : List.Forall₂ OrderRow.Keeps (table.orders ++ [row]) after.orders :=
      orders ▸ List.rel_append keeps.rows (.cons kept .nil)
    exact ⟨keeps.isOpen, rows⟩
  all_goals nomatch found

theorem update (keeps : table.Keeps memory) {order : Order}
    (fits : order.projectIncome.toMinor?.isSome) :
    (written table (table.update order)).2.Keeps (written memory (memory.update order)).2 := by
  obtain ⟨row, made⟩ := OrderRow.ofOrder_eq_ok fits
  have kept := OrderRow.keeps_ofOrder made
  have found := keeps.lookup order.id
  have touched := OrderRow.touched_eq_zero_iff
    (keeps.rows.imp fun _ _ => OrderRow.Keeps.labels) kept.labels
  cases inTable : table.row? order.id <;> cases inMemory : memory.fetch order.id <;>
    rw [inTable, inMemory] at found
  case none.none =>
    have untouched := touched.mpr fun known member named =>
      absurd named (MemoryStore.fetch_eq_none_iff.mp inMemory known member)
    rw [TableStore.update_missing keeps.isOpen made untouched inTable,
      MemoryStore.update_missing inMemory]
    exact keeps
  case some.some stored known =>
    obtain ⟨inside, knownId⟩ := MemoryStore.fetch_eq_some_iff.mp inMemory
    have only : ∀ other ∈ memory.orders, other.id = order.id → other = known :=
      fun _ member named => MemoryStore.eq_of_id member inside (named.trans knownId.symm)
    by_cases current : known.version = order.version
    · have based : TableStore.touched table.orders row ≠ 0 := fun untouched =>
        touched.mp untouched known inside knownId current
      by_cases hasNext : order.version < Int64.maxValue
      · have base : ∀ other ∈ memory.orders, other.id = order.id → other.version = order.version :=
          fun other member named => only other member named ▸ current
        rw [TableStore.update_current keeps.isOpen made based hasNext,
          MemoryStore.update_current inMemory current hasNext]
        exact ⟨keeps.isOpen, OrderRow.overwrite_rel OrderRow.Keeps.labels keeps.rows
          kept.labels (kept.atVersion (order.version + 1)) base⟩
      · rw [TableStore.update_last keeps.isOpen made based hasNext,
          MemoryStore.update_last inMemory current hasNext]
        exact keeps
    · have untouched := touched.mpr fun other member named =>
        only other member named ▸ current
      rw [TableStore.update_stale keeps.isOpen made untouched inTable,
        MemoryStore.update_stale inMemory current]
      exact keeps
  all_goals nomatch found

/-- **One change to both stores.** Whatever becomes of refunds, the rows are those of the orders. -/
theorem change (keeps : table.Keeps memory) {change : StoreChange}
    (fits : ∀ order ∈ change.order?, order.projectIncome.toMinor?.isSome) :
    (OrderStore.change table change).Keeps (OrderStore.change memory change) := by
  cases change with
  | insert order => exact keeps.insert (fits order rfl)
  | update order => exact keeps.update (fits order rfl)
  | refund refund =>
    change ((table.addRefund refund).toOption.getD table).Keeps (memory.addRefund refund)
    unfold TableStore.addRefund
    rw [TableStore.whenOpen_of_open keeps.isOpen]
    cases table.row? refund.orderId with
    | none => exact ⟨keeps.isOpen, keeps.rows⟩
    | some row => exact ⟨keeps.isOpen, keeps.rows⟩

/-- **One change after another to both stores.** -/
theorem changed (keeps : table.Keeps memory) {changes : List StoreChange}
    (fits : ∀ change ∈ changes, ∀ order ∈ change.order?, order.projectIncome.toMinor?.isSome) :
    (OrderStore.changed table changes).Keeps (OrderStore.changed memory changes) := by
  unfold OrderStore.changed
  induction changes generalizing table memory with
  | nil => exact keeps
  | cons change changes hypothesis =>
    rw [List.forall_mem_cons] at fits
    exact hypothesis (keeps.change fits.1) fits.2

end TableStore.Keeps

end Paydesk
