/-
**Pages of one result.**

Whoever asks for page after page until one is empty has read the whole result: the pages are the
consecutive windows of one sorted list, and the sorted list does not depend on the sequence in which
the store enumerates its orders.

* `flatMap_windows`: the first windows of a list are its first part, by induction on their number;
* `MemoryStore.search_eq_of_perm`: a page does not see how the store enumerates its orders;
* `MemoryStore.pages_partition`: **the pages up to the first empty one hold every order that meets
  the condition once and nothing else, sorted, and as many as the count says**.
-/

import Paydesk.Proofs.Query.Sort
import Paydesk.Proofs.Store.Refinement

namespace Paydesk

/-! ### Windows -/

/-- Consecutive windows of one size, put together, are the beginning of the list. -/
theorem flatMap_windows {α : Type} (items : List α) (size count : Nat) :
    ((List.range count).flatMap fun index => (items.drop (size * index)).take size)
      = items.take (size * count) := by
  induction count with
  | zero => simp
  | succ count hypothesis =>
    rw [List.range_succ, List.flatMap_append, hypothesis, List.flatMap_singleton, Nat.mul_succ,
      List.take_add]

/-- How many windows of a size it takes to see all of a list. -/
def windowCount (size length : Nat) : Nat := (length + size - 1) / size

theorem length_le_windowCount {size : Nat} (positive : 0 < size) (length : Nat) :
    length ≤ size * windowCount size length := by
  unfold windowCount
  have rounded := Nat.lt_mul_div_succ (length + size - 1) positive
  rw [Nat.mul_succ] at rounded
  omega

theorem mul_lt_of_lt_windowCount {size length index : Nat} (positive : 0 < size)
    (inside : index < windowCount size length) : size * index < length := by
  unfold windowCount at inside
  have reached : (index + 1) * size ≤ length + size - 1 :=
    (Nat.le_div_iff_mul_le positive).mp inside
  rw [Nat.add_mul, Nat.one_mul, Nat.mul_comm] at reached
  omega

namespace MemoryStore

variable (store : MemoryStore) (query : OrderQuery)

/-! ### One page -/

/-- The orders that meet a condition. -/
def found (condition : Condition) : List Order :=
  store.orders.filter fun order => condition.holds order

theorem distinct_found (condition : Condition) :
    ((store.found condition).map (·.id)).Nodup :=
  store.distinct.sublist (List.filter_sublist.map _)

/-- **A page is the same however the store enumerates its orders.** -/
theorem search_eq_of_perm {first second : MemoryStore} (same : first.orders.Perm second.orders) :
    first.search query = second.search query := by
  have sorted : query.sorted (first.found query.condition)
      = query.sorted (second.found query.condition) :=
    query.sorted_eq_of_perm (first.distinct_found _) (same.filter _)
  exact congrArg query.window sorted

/-- The page of an index when orders are read in pages of a size. -/
def page (condition : Condition) (sort : List SortField) (size index : Nat) : List Order :=
  store.search { condition, sort, limit := size, offset := size * index }

/-! ### All pages -/

/-- **Pages partition the result.** For every condition, sort keys and page size:

* pages are empty from some index on and not before, and the pages up to it, one after another,
  hold each order of the store that meets the condition exactly once and no other order;
* they are sorted strictly by the order of the query, and there are as many as the store counts;
* a store that enumerates the same orders in another sequence has the same pages;
* the order of the query is antisymmetric, transitive and decides between different ids. -/
theorem pages_partition (condition : Condition) (sort : List SortField) {size : Nat}
    (positive : 0 < size) :
    (∃ count, store.page condition sort size count = []
      ∧ (∀ index < count, store.page condition sort size index ≠ [])
      ∧ let read := (List.range count).flatMap (store.page condition sort size)
        (∀ order, order ∈ read ↔ order ∈ store.orders ∧ condition.holds order)
        ∧ read.Nodup
        ∧ read.Pairwise (fun first second =>
            OrderQuery.order { condition, sort } first second = .lt)
        ∧ read.length = store.count condition)
    ∧ (∀ other : MemoryStore, other.orders.Perm store.orders →
        ∀ index, other.page condition sort size index = store.page condition sort size index)
    ∧ ∀ query : OrderQuery,
        (∀ first second, query.order first second = (query.order second first).swap)
        ∧ (∀ first second third, query.order first second = .lt →
            query.order second third = .lt → query.order first third = .lt)
        ∧ ∀ first second, first.id ≠ second.id →
            query.order first second = .lt ∨ query.order first second = .gt := by
  refine ⟨?_, fun other same index => search_eq_of_perm _ same, fun query =>
    ⟨query.order_swap, fun _ _ _ => query.order_trans, fun _ _ => query.order_eq_lt_or_gt⟩⟩
  let query : OrderQuery := { condition, sort }
  let result := query.sorted (store.found condition)
  have page_eq (index : Nat) :
      store.page condition sort size index = (result.drop (size * index)).take size := rfl
  have permuted : result.Perm (store.found condition) := query.sorted_perm_self _
  have sorted := query.pairwise_sorted (store.distinct_found condition)
  refine ⟨windowCount size result.length, ?_, ?_, ?_⟩
  · rw [page_eq, List.drop_eq_nil_of_le (length_le_windowCount positive _), List.take_nil]
  · intro index inside empty
    have begun := mul_lt_of_lt_windowCount positive inside
    rw [page_eq] at empty
    have none_left := congrArg List.length empty
    rw [List.length_take, List.length_drop, List.length_nil] at none_left
    omega
  · have all : (List.range (windowCount size result.length)).flatMap
        (store.page condition sort size) = result := by
      calc (List.range (windowCount size result.length)).flatMap (store.page condition sort size)
          = result.take (size * windowCount size result.length) := flatMap_windows result size _
        _ = result := List.take_of_length_le (length_le_windowCount positive _)
    rw [all]
    refine ⟨?_, ?_, sorted, permuted.length_eq⟩
    · intro order
      rw [permuted.mem_iff, found, List.mem_filter]
    · refine sorted.imp ?_
      intro first second before same
      rw [same, query.order_self] at before
      cases before

/-- Three orders that differ in their ids only. -/
def threeAlike : MemoryStore where
  orders := ["second", "third", "first"].map fun id => { tenEuros with id }
  distinct := by decide +kernel

theorem pages_partition_threeAlike :
    0 < 2 ∧ ∃ count, threeAlike.page (.all []) [⟨.amount, true⟩] 2 count = []
      ∧ ((List.range count).flatMap (threeAlike.page (.all []) [⟨.amount, true⟩] 2)).length = 3 := by
  obtain ⟨⟨count, last, -, -, -, -, length⟩, -⟩ :=
    pages_partition threeAlike (.all []) [⟨.amount, true⟩] (by decide : 0 < 2)
  exact ⟨by decide, count, last, length⟩

end MemoryStore

end Paydesk
