/-
**The order of orders.**

A query compares orders by one key after another, each in its direction, and at last by id. Every
key is a total preorder of orders, keys in turn are one again whichever of them repeat or conflict,
and the id tells apart what they leave together. So a list of orders with distinct ids has one
sorted form, whatever sequence it came in.

* `SortKey.transCmp_order`, `SortField.transCmp_order`: one key, by cases, and its directions;
* `OrderQuery.transCmp_order`: the keys in turn, by induction on them;
* `OrderQuery.order_eq_lt_or_gt`: of two orders with different ids one comes first;
* `OrderQuery.sorted_eq_of_perm`: **orders with distinct ids can be sorted in one way only**.
-/

import Paydesk.Proofs.Decimal.Units
import Paydesk.Proofs.Time.Millis
import Paydesk.Query.Sort

namespace Paydesk

/-! ### One key -/

theorem SortKey.transCmp_order (key : SortKey) :
    Std.TransCmp fun first second : Order => key.order first second := by
  cases key with
  | createdAt => exact inferInstanceAs (Std.TransCmp (compareOn Order.createdAt))
  | status =>
    exact inferInstanceAs (Std.TransCmp (compareOn fun order : Order => order.status.code))
  | projectName =>
    exact inferInstanceAs (Std.TransCmp (compareOn fun order : Order => order.project.name))
  | amount => exact inferInstanceAs (Std.TransCmp (compareOn Order.projectIncome))

/-- The other direction of a key compares the orders the other way round. -/
theorem SortField.order_descending (key : SortKey) (first second : Order) :
    (SortField.mk key true).order first second = key.order second first := by
  unfold SortField.order
  rw [if_pos rfl]
  exact key.transCmp_order.eq_swap.symm

theorem SortField.transCmp_order (field : SortField) :
    Std.TransCmp fun first second : Order => field.order first second := by
  have key_order := field.key.transCmp_order
  cases field with
  | mk key descending =>
    cases descending with
    | false => exact key_order
    | true =>
      simp only [SortField.order_descending]
      exact @Std.TransCmp.opposite _ _ key_order

namespace OrderQuery

/-! ### The keys in turn -/

/-- Whichever keys there are, and in whatever directions: a further key in front refines or
overrides what the later ones say, and the last word is the id's. -/
theorem transCmp_order (query : OrderQuery) : Std.TransCmp query.order := by
  unfold order
  generalize query.sort = sort
  induction sort with
  | nil => exact inferInstanceAs (Std.TransCmp (compareOn Order.id))
  | cons field rest hypothesis =>
    have front := field.transCmp_order
    exact inferInstanceAs (Std.TransCmp
      (compareLex (fun first second : Order => field.order first second) _))

/-- Orders that no key tells apart, the id included, have one id. -/
theorem id_eq_of_order_eq {query : OrderQuery} {first second : Order}
    (tie : query.order first second = .eq) : first.id = second.id := by
  unfold order at tie
  generalize query.sort = sort at tie
  induction sort with
  | nil => exact Std.LawfulEqCmp.eq_of_compare tie
  | cons field rest hypothesis =>
    rw [List.foldr_cons, Ordering.then_eq_eq] at tie
    exact hypothesis tie.2

theorem order_swap (query : OrderQuery) (first second : Order) :
    query.order first second = (query.order second first).swap :=
  query.transCmp_order.eq_swap

theorem order_trans (query : OrderQuery) {first second third : Order}
    (lower : query.order first second = .lt) (upper : query.order second third = .lt) :
    query.order first third = .lt := by
  have trans := query.transCmp_order
  exact Std.TransCmp.lt_trans lower upper

theorem order_self (query : OrderQuery) (order : Order) : query.order order order = .eq := by
  have trans := query.transCmp_order
  exact Std.ReflCmp.compare_self

/-- Of two orders with different ids one comes first. -/
theorem order_eq_lt_or_gt (query : OrderQuery) {first second : Order}
    (different : first.id ≠ second.id) :
    query.order first second = .lt ∨ query.order first second = .gt := by
  cases compared : query.order first second with
  | lt => exact Or.inl rfl
  | gt => exact Or.inr rfl
  | eq => exact absurd (id_eq_of_order_eq compared) different

/-! ### Sorted lists -/

theorem precedes_iff (query : OrderQuery) (first second : Order) :
    query.precedes first second ↔ (query.order first second).isLE := by
  rw [precedes, bne_iff_ne, Ordering.isLE_iff_ne_gt]

theorem precedes_trans (query : OrderQuery) (first second third : Order)
    (lower : query.precedes first second) (upper : query.precedes second third) :
    query.precedes first third := by
  have trans := query.transCmp_order
  rw [precedes_iff] at lower upper ⊢
  exact Std.TransCmp.isLE_trans lower upper

theorem precedes_total (query : OrderQuery) (first second : Order) :
    (query.precedes first second || query.precedes second first) = true := by
  rw [Bool.or_eq_true, precedes_iff, precedes_iff, query.order_swap second first,
    Ordering.isLE_swap]
  cases query.order first second <;> decide

theorem sorted_perm_self (query : OrderQuery) (orders : List Order) :
    (query.sorted orders).Perm orders :=
  List.mergeSort_perm orders query.precedes

/-- Where ids are distinct, each order of the sorted list comes before every later one. -/
theorem pairwise_sorted (query : OrderQuery) {orders : List Order}
    (distinct : (orders.map (·.id)).Nodup) :
    (query.sorted orders).Pairwise fun first second => query.order first second = .lt := by
  have kept : ((query.sorted orders).map (·.id)).Nodup :=
    ((query.sorted_perm_self orders).map _).nodup_iff.mpr distinct
  have apart : (query.sorted orders).Pairwise fun first second => first.id ≠ second.id :=
    List.pairwise_map.mp kept
  have ascending : (query.sorted orders).Pairwise fun first second =>
      query.precedes first second = true :=
    List.pairwise_mergeSort query.precedes_trans query.precedes_total orders
  refine (apart.and ascending).imp ?_
  rintro first second ⟨different, before⟩
  rcases query.order_eq_lt_or_gt different with less | greater
  · exact less
  · rw [precedes, greater] at before
    exact absurd before (by decide)

/-- **Orders with distinct ids can be sorted in one way only.** -/
theorem sorted_eq_of_perm (query : OrderQuery) {orders others : List Order}
    (distinct : (orders.map (·.id)).Nodup) (same : orders.Perm others) :
    query.sorted orders = query.sorted others := by
  have distinct_others : (others.map (·.id)).Nodup := (same.map _).nodup_iff.mp distinct
  refine List.Perm.eq_of_pairwise ?_ (query.pairwise_sorted distinct)
    (query.pairwise_sorted distinct_others) ?_
  · intro first second _ _ less greater
    rw [query.order_swap, greater] at less
    cases less
  · exact ((query.sorted_perm_self orders).trans same).trans (query.sorted_perm_self others).symm

end OrderQuery

end Paydesk
