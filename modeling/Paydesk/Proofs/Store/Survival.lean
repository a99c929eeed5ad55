/-
**Orders survive their documents.**

The store in tables keeps every order as the text of its document. Whatever was added and changed,
an order is fetched as the document says it; and while the numbers among its parameters are short,
that is the order which was written, and the parameters show as they did.

* `TableStore.Keeps.fetch_eq`: a row is fetched as the order it was made of;
* `fetch_changed`: **orders with short numbers survive being stored**.
-/

import Paydesk.Proofs.Order.Numbers
import Paydesk.Proofs.Store.Search

namespace Paydesk

namespace Order

/-- What an order with short numbers is read as. -/
def tidied (order : Order) : Order := order.mapNumbers Amount.reread Decimal.normal

theorem same_tidied (order : Order) : order.tidied.Same order :=
  same_mapNumbers Amount.sameValue_reread Decimal.sameValue_normal order

theorem IsShort.atVersion (order : Order) (version : Int64) (short : order.IsShort) :
    IsShort { order with version } :=
  ⟨short.projectParams, short.additional⟩

end Order

/-- A row is fetched as the order it was made of. -/
theorem TableStore.Keeps.fetch_eq {table : TableStore} {memory : MemoryStore}
    (keeps : table.Keeps memory) (short : ∀ order ∈ memory.orders, order.IsShort) (id : String) :
    table.fetch id = .ok ((memory.fetch id).map Order.tidied) := by
  have found := keeps.lookup id
  unfold TableStore.fetch
  rw [TableStore.whenOpen_of_open keeps.isOpen]
  cases inTable : table.row? id <;> cases inMemory : memory.fetch id <;>
    rw [inTable, inMemory] at found
  case none.none => rfl
  case some.some row order =>
    obtain ⟨kept⟩ := found
    have order_short := short order (MemoryStore.fetch_eq_some_iff.mp inMemory).1
    change row.toOrder.map some = _
    rw [kept.toOrder_eq order_short.isReadable, Order.readBack, order_short.mapNumbers_reread]
    rfl
  all_goals nomatch found

/-- **Orders with short numbers survive being stored.** After whatever changes, by any id:

* the store in tables fetches the order that the store in memory holds, as its document says it;
* what the text of the document is read as is an equal order;
* parameters whose numbers show no zeros after their last places are the same, text and all. -/
theorem fetch_changed (changes : List StoreChange)
    (short : ∀ change ∈ changes, ∀ order ∈ change.order?,
      order.projectIncome.toMinor?.isSome ∧ order.IsShort) (id : String) :
    let table := OrderStore.changed TableStore.empty changes
    let memory := OrderStore.changed MemoryStore.empty changes
    table.fetch id = .ok ((memory.fetch id).map Order.tidied)
      ∧ ∀ order ∈ memory.fetch id,
        Json.read? order.write.write >>= Order.read? = some order.tidied
          ∧ order.tidied.Same order
          ∧ (order.projectParams.IsNormal → order.tidied.projectParams = order.projectParams)
          ∧ (order.transaction.additional.IsNormal → order.tidied.transaction = order.transaction) := by
  intro table memory
  have keeps : table.Keeps memory := TableStore.Keeps.empty.changed fun change member order written =>
    (short change member order written).1
  have stored : ∀ order ∈ memory.orders, order.IsShort :=
    MemoryStore.forall_changed Order.IsShort.atVersion
      (fun change member order written => (short change member order written).2)
      fun order member => nomatch member
  refine ⟨keeps.fetch_eq stored id, fun order found => ?_⟩
  have order_short := stored order (MemoryStore.fetch_eq_some_iff.mp found).1
  refine ⟨order_short.read?_text, order.same_tidied, Params.IsNormal.mapValues_normal, ?_⟩
  intro normal
  have additional := Params.IsNormal.mapValues_normal normal
  change { order.transaction with
    additional := order.transaction.additional.mapValues (Param.mapNumber Decimal.normal) } = _
  rw [additional]

/-- An order with one and a half among its parameters. -/
def oneAndAHalf : Order :=
  { tenEuros with
    projectParams :=
      tenEuros.projectParams.insert "rate" (.number ⟨false, 15, 1, by decide, by decide⟩) }

theorem fetch_changed_oneAndAHalf :
    ∃ found,
      (OrderStore.changed TableStore.empty [.insert oneAndAHalf]).fetch "first" = .ok (some found)
      ∧ found.Same oneAndAHalf ∧ found.projectParams = oneAndAHalf.projectParams := by
  obtain ⟨fetched, survives⟩ := fetch_changed [.insert oneAndAHalf] (by decide +kernel) "first"
  have stored : (OrderStore.changed MemoryStore.empty [.insert oneAndAHalf]).fetch "first"
      = some oneAndAHalf := by rfl
  obtain ⟨-, same, params, -⟩ := survives oneAndAHalf stored
  refine ⟨oneAndAHalf.tidied, ?_, same, params (by decide +kernel)⟩
  rw [fetched, stored]
  rfl

end Paydesk
