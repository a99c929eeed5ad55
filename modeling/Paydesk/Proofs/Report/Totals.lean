/-
**Totals that do not depend on the sequence.**

Sums of amounts in cents are exact while they fit a decimal, so a total is the same in whatever
sequence the amounts come. Hence the figures of a report depend on the orders and refunds that it is
made of, and on the dates these fall on, and not on how a store lists them.

* `Summary.ofAmounts?_eq_of_perm`: summaries;
* `addEntry_eq`, `foldlM_addEntry`: what one entry and what all entries add to the sums by date;
* `buckets_eq_of_perm`: **sums by date**.
-/

import Mathlib.Algebra.Order.BigOperators.Group.List
import Paydesk.Proofs.Decimal.Cents
import Paydesk.Proofs.Dict
import Paydesk.Report.Merchant

namespace Paydesk

/-! ### Summaries -/

/-- A summary does not depend on the sequence of its amounts. -/
theorem Summary.ofAmounts?_eq_of_perm {amounts others : List Amount} (same : amounts.Perm others)
    (each : ∀ amount ∈ amounts, amount.IsCents)
    (small : (amounts.map (·.cents.natAbs)).sum < Decimal.limit) :
    ofAmounts? amounts = ofAmounts? others := by
  have empty : amounts.isEmpty = others.isEmpty := by
    rw [Bool.eq_iff_iff, List.isEmpty_iff, List.isEmpty_iff]
    exact ⟨fun none => by simpa [none] using same, fun none => by simpa [none] using same⟩
  unfold ofAmounts? ofAmounts
  rw [empty, Amount.sum_eq_of_perm same each small, same.length_eq]

/-! ### Sums by date -/

/-- The date of an entry and its amount. -/
def Entry.dated (period : Period) (entry : Entry) : PointDate × Amount :=
  (PointDate.ofInstant period entry.time, entry.amount)

/-- The amounts of a date. -/
def amountsOn (dated : List (PointDate × Amount)) (date : PointDate) : List Amount :=
  (dated.filter fun entry => entry.1 = date).map (·.2)

theorem sum_amountsOn_le (dated : List (PointDate × Amount)) (date : PointDate) :
    ((amountsOn dated date).map (·.cents.natAbs)).sum
      ≤ (dated.map (·.2.cents.natAbs)).sum := by
  induction dated with
  | nil => exact Nat.le_refl 0
  | cons entry rest hypothesis =>
    unfold amountsOn at hypothesis ⊢
    rw [List.filter_cons, List.map_cons, List.sum_cons]
    split
    · rw [List.map_cons, List.map_cons, List.sum_cons]
      omega
    · omega

/-- There is a sum of amounts if there are any amounts. -/
inductive IsSumOf : Option Amount → List Amount → Prop where
  | nothing : IsSumOf none []
  | total {sum : Amount} {amounts : List Amount} (isCents : sum.IsCents)
    (exact_sum : sum.cents = (amounts.map Amount.cents).sum) (nonempty : amounts ≠ []) :
    IsSumOf (some sum) amounts

namespace IsSumOf

theorem eq_of_perm {first second : Option Amount} {amounts others : List Amount}
    (one : IsSumOf first amounts) (other : IsSumOf second others) (same : amounts.Perm others) :
    first = second := by
  cases one with
  | nothing =>
    rw [List.nil_perm.mp same] at other
    cases other with
    | nothing => rfl
    | total _ _ nonempty => exact absurd rfl nonempty
  | total isCents exact_sum nonempty =>
    cases other with
    | nothing => exact absurd (List.perm_nil.mp same) nonempty
    | total other_cents exact_other _ =>
      exact congrArg some (Amount.eq_of_cents isCents other_cents
        (by rw [exact_sum, exact_other, (same.map Amount.cents).sum_eq]))

/-- A sum takes one more amount. -/
theorem add {sum : Option Amount} {amounts : List Amount} {amount : Amount}
    (known : IsSumOf sum amounts) (isCents : amount.IsCents)
    (small : ((amounts ++ [amount]).map (·.cents.natAbs)).sum < Decimal.limit) :
    ∃ after, (sum.getD .unset).add amount = .ok after
      ∧ IsSumOf (some after) (amounts ++ [amount]) := by
  cases known with
  | nothing =>
    obtain ⟨after, added, after_cents, same⟩ :=
      Amount.add_eq_ok isCents.holds (if_pos rfl : Amount.unset.value.add? amount.value = _)
    exact ⟨after, added, .total after_cents (by simp [same]) (by simp)⟩
  | @total before amounts before_cents exact_before nonempty =>
    have total_eq : before.cents + amount.cents
        = ((amounts ++ [amount]).map Amount.cents).sum := by
      simp [exact_before]
    obtain ⟨after, added, after_cents, exact_after⟩ := before_cents.add isCents
      (total_eq ▸ Nat.lt_of_le_of_lt (Amount.natAbs_sum_le Amount.cents _) small)
    exact ⟨after, added, .total after_cents (exact_after.trans total_eq) (by simp)⟩

end IsSumOf

section Dates

variable {period : Period} {sums : Dict PointDate Amount} {holds : Option Amount → List Amount → Prop}

theorem amountsOn_append_entry (dated : List (PointDate × Amount)) (entry : Entry)
    (date : PointDate) : amountsOn (dated ++ [entry.dated period]) date
      = if PointDate.ofInstant period entry.time = date then amountsOn dated date ++ [entry.amount]
        else amountsOn dated date := by
  unfold amountsOn Entry.dated
  by_cases same : PointDate.ofInstant period entry.time = date <;> simp [same]

theorem amountsOn_append (dated others : List (PointDate × Amount)) (date : PointDate) :
    amountsOn (dated ++ others) date = amountsOn dated date ++ amountsOn others date := by
  unfold amountsOn
  rw [List.filter_append, List.map_append]

/-- One more entry is added to the sum of its date, and the sums of the other dates stay. -/
theorem addEntry_eq {dated : List (PointDate × Amount)} {entry : Entry}
    (known : ∀ date, holds (sums.get? date) (amountsOn dated date)) {sum : Amount}
    (added : ((sums.get? (PointDate.ofInstant period entry.time)).getD .unset).add entry.amount
      = .ok sum)
    (holds_sum : holds (some sum)
      (amountsOn dated (PointDate.ofInstant period entry.time) ++ [entry.amount])) :
    ∃ after, addEntry period sums entry = .ok after
      ∧ ∀ date, holds (after.get? date) (amountsOn (dated ++ [entry.dated period]) date) := by
  refine ⟨sums.insert (PointDate.ofInstant period entry.time) sum, ?_, fun date => ?_⟩
  · unfold addEntry
    simp only [added]
    rfl
  · rw [amountsOn_append_entry]
    by_cases same : PointDate.ofInstant period entry.time = date
    · rw [if_pos same, ← same, Dict.get?_insert_self]
      exact holds_sum
    · rw [if_neg same, Dict.get?_insert_of_ne _ (Ne.symm same)]
      exact known date

/-- **Entries added one after another make the sums of all of them by date**: what one more amount
preserves of a sum holds of every date's sum in the end. -/
theorem foldlM_addEntry {dated : List (PointDate × Amount)} {entries : List Entry}
    (known : ∀ date, holds (sums.get? date) (amountsOn dated date))
    (step : ∀ date sum amounts amount,
      amounts ++ [amount] <+: amountsOn (dated ++ entries.map (Entry.dated period)) date →
      holds sum amounts →
      ∃ after, (sum.getD .unset).add amount = .ok after ∧ holds (some after) (amounts ++ [amount])) :
    ∃ result, entries.foldlM (addEntry period) sums = .ok result
      ∧ ∀ date, holds (result.get? date)
        (amountsOn (dated ++ entries.map (Entry.dated period)) date) := by
  induction entries generalizing sums dated with
  | nil => exact ⟨sums, rfl, by simpa using known⟩
  | cons entry rest hypothesis =>
    have joined : dated ++ (entry :: rest).map (Entry.dated period)
        = dated ++ [entry.dated period] ++ rest.map (Entry.dated period) := by simp
    rw [joined] at step ⊢
    have taken : amountsOn dated (PointDate.ofInstant period entry.time) ++ [entry.amount]
        <+: amountsOn (dated ++ [entry.dated period] ++ rest.map (Entry.dated period))
          (PointDate.ofInstant period entry.time) := by
      rw [amountsOn_append, amountsOn_append_entry, if_pos rfl]
      exact List.prefix_append _ _
    obtain ⟨sum, added, holds_sum⟩ := step _ _ _ _ taken (known _)
    obtain ⟨after, first, known_after⟩ := addEntry_eq known added holds_sum
    obtain ⟨result, folded, holds_result⟩ := hypothesis known_after step
    refine ⟨result, ?_, holds_result⟩
    rw [List.foldlM_cons, first]
    exact folded

/-- Entries in cents have sums by date while all of them together fit. -/
theorem isSumOf_foldlM (period : Period) {entries : List Entry}
    (each : ∀ entry ∈ entries, entry.amount.IsCents)
    (small : (entries.map (·.amount.cents.natAbs)).sum < Decimal.limit) :
    ∃ result, entries.foldlM (addEntry period) ∅ = .ok result
      ∧ ∀ date, IsSumOf (result.get? date)
        (amountsOn (entries.map (Entry.dated period)) date) := by
  have none_yet (date : PointDate) :
      IsSumOf ((∅ : Dict PointDate Amount).get? date) (amountsOn [] date) := .nothing
  refine foldlM_addEntry none_yet fun date sum amounts amount taken known => ?_
  rw [List.nil_append] at taken
  refine known.add ?_ (Nat.lt_of_le_of_lt ?_ small)
  · have member := taken.subset (List.mem_append_right amounts (List.mem_singleton_self amount))
    obtain ⟨_, dated, rfl⟩ := List.mem_map.mp member
    obtain ⟨entry, inside, rfl⟩ := List.mem_map.mp (List.mem_filter.mp dated).1
    exact each entry inside
  · calc ((amounts ++ [amount]).map (·.cents.natAbs)).sum
        ≤ ((amountsOn (entries.map (Entry.dated period)) date).map (·.cents.natAbs)).sum :=
          (taken.sublist.map _).sum_le_sum fun _ _ => Nat.zero_le _
      _ ≤ ((entries.map (Entry.dated period)).map (·.2.cents.natAbs)).sum := sum_amountsOn_le _ _
      _ = (entries.map (·.amount.cents.natAbs)).sum := by
          rw [List.map_map]
          rfl

/-- **Sums by date do not depend on the sequence of the entries**, and see of their times only the
dates. -/
theorem buckets_eq_of_perm {entries others : List Entry}
    (same : (entries.map (Entry.dated period)).Perm (others.map (Entry.dated period)))
    (each : ∀ entry ∈ entries, entry.amount.IsCents)
    (small : (entries.map (·.amount.cents.natAbs)).sum < Decimal.limit) :
    buckets period entries = buckets period others := by
  have sizes := (same.map fun entry => entry.2.cents.natAbs).sum_eq
  rw [List.map_map, List.map_map] at sizes
  have each_other : ∀ entry ∈ others, entry.amount.IsCents := by
    intro entry member
    obtain ⟨twin, inside, equal⟩ :=
      List.mem_map.mp (same.mem_iff.mpr (List.mem_map_of_mem member))
    have amounts : twin.amount = entry.amount := congrArg Prod.snd equal
    exact amounts ▸ each twin inside
  obtain ⟨result, folded, isSum⟩ := isSumOf_foldlM period each small
  obtain ⟨result_other, folded_other, isSum_other⟩ :=
    isSumOf_foldlM period each_other (Nat.lt_of_le_of_lt sizes.ge small)
  have equal : result = result_other := Dict.eq_of_get? fun date =>
    (isSum date).eq_of_perm (isSum_other date) ((same.filter _).map _)
  unfold buckets
  rw [folded, folded_other, equal]

end Dates

/-! ### Figures -/

/-- Figures of revenue see of their entries the dates and the amounts, in any sequence. -/
theorem RevenueFigures.ofEntries_eq_of_perm {period : Period} {revenue refunds : List Entry}
    {others otherRefunds : List Entry}
    (same : (revenue.map (Entry.dated period)).Perm (others.map (Entry.dated period)))
    (sameRefunds : (refunds.map (Entry.dated period)).Perm (otherRefunds.map (Entry.dated period)))
    (each : ∀ entry ∈ revenue, entry.amount.IsCents)
    (eachRefund : ∀ entry ∈ refunds, entry.amount.IsCents)
    (small : (revenue.map (·.amount.cents.natAbs)).sum < Decimal.limit)
    (smallRefund : (refunds.map (·.amount.cents.natAbs)).sum < Decimal.limit) :
    ofEntries period revenue refunds = ofEntries period others otherRefunds := by
  have summary {entries twins : List Entry}
      (same : (entries.map (Entry.dated period)).Perm (twins.map (Entry.dated period)))
      (each : ∀ entry ∈ entries, entry.amount.IsCents)
      (small : (entries.map (·.amount.cents.natAbs)).sum < Decimal.limit) :
      Summary.ofAmounts? (entries.map (·.amount)) = Summary.ofAmounts? (twins.map (·.amount)) := by
    have amounts := same.map Prod.snd
    rw [List.map_map, List.map_map] at amounts
    refine Summary.ofAmounts?_eq_of_perm amounts (List.forall_mem_map.mpr each) ?_
    rw [List.map_map]
    exact small
  unfold ofEntries
  rw [summary same each small, summary sameRefunds eachRefund smallRefund,
    buckets_eq_of_perm same each small, buckets_eq_of_perm sameRefunds eachRefund smallRefund]

theorem mapM_eq_ok {α β ε : Type} {result : α → Except ε β} {value : α → β} {items : List α}
    (each : ∀ item ∈ items, result item = .ok (value item)) :
    items.mapM result = .ok (items.map value) := by
  induction items with
  | nil => rfl
  | cons item rest hypothesis =>
    rw [List.forall_mem_cons] at each
    rw [List.mapM_cons, each.1, hypothesis each.2]
    rfl

/-- What is left of a settlement without the commission in it. -/
def Settlement.net (settlement : Settlement) : Amount :=
  (settlement.gross.sub settlement.commission).toOption.getD .unset

theorem Settlement.sub_eq_net {settlement : Settlement} (gross : settlement.gross.IsCents)
    (commission : settlement.commission.IsCents)
    (small : settlement.gross.cents.natAbs + settlement.commission.cents.natAbs < Decimal.limit) :
    settlement.gross.sub settlement.commission = .ok settlement.net ∧ settlement.net.IsCents
      ∧ settlement.net.cents = settlement.gross.cents - settlement.commission.cents := by
  obtain ⟨rest, taken, isCents, same⟩ := gross.sub commission (by omega)
  have equal : settlement.net = rest := by
    rw [net, taken]
    rfl
  exact ⟨equal ▸ taken, equal ▸ isCents, equal ▸ same⟩

theorem AccountingFigures.addAmounts_eq_of_perm (figures : AccountingFigures) (group : String)
    {amounts others : List Amount} (same : amounts.Perm others)
    (each : ∀ amount ∈ amounts, amount.IsCents)
    (small : (amounts.map (·.cents.natAbs)).sum < Decimal.limit) :
    figures.addAmounts group amounts = figures.addAmounts group others := by
  unfold addAmounts
  rw [Summary.ofAmounts?_eq_of_perm same each small]

section Groups

variable {orders others : List Settlement} {refunds otherRefunds : List Refund}

/-- A group made of one amount of every order. -/
theorem AccountingFigures.addAmounts_map_eq_of_perm (figures : AccountingFigures) (group : String)
    {amount : Settlement → Amount} (same : orders.Perm others)
    (isCents : ∀ order ∈ orders, (amount order).IsCents)
    (bound : ∀ order ∈ orders, (amount order).cents.natAbs
      ≤ order.gross.cents.natAbs + order.commission.cents.natAbs)
    (small : (orders.map fun order => order.gross.cents.natAbs
      + order.commission.cents.natAbs).sum < Decimal.limit) :
    figures.addAmounts group (orders.map amount) = figures.addAmounts group (others.map amount) := by
  refine addAmounts_eq_of_perm figures group (same.map amount) (List.forall_mem_map.mpr isCents) ?_
  rw [List.map_map]
  exact Nat.lt_of_le_of_lt (List.sum_le_sum bound) small

/-- A group made of some of the refunds. -/
theorem AccountingFigures.addAmounts_filter_eq_of_perm (figures : AccountingFigures) (group : String)
    (accept : Refund → Bool) (same : refunds.Perm otherRefunds)
    (each : ∀ refund ∈ refunds, refund.amount.IsCents)
    (small : (refunds.map (·.amount.cents.natAbs)).sum < Decimal.limit) :
    figures.addAmounts group ((refunds.filter accept).map (·.amount))
      = figures.addAmounts group ((otherRefunds.filter accept).map (·.amount)) := by
  refine addAmounts_eq_of_perm figures group ((same.filter accept).map _) ?_ ?_
  · refine List.forall_mem_map.mpr fun refund member => ?_
    exact each refund (List.mem_filter.mp member).1
  · rw [List.map_map]
    refine Nat.lt_of_le_of_lt ?_ small
    exact (List.filter_sublist.map _).sum_le_sum fun _ _ => Nat.zero_le _

/-- **Figures of accounting see their orders and refunds in any sequence**: every group is made of a
part of the orders or of the refunds. -/
theorem AccountingFigures.ofEntries_eq_of_perm (same : orders.Perm others)
    (sameRefunds : refunds.Perm otherRefunds)
    (each : ∀ order ∈ orders, order.gross.IsCents ∧ order.commission.IsCents)
    (eachRefund : ∀ refund ∈ refunds, refund.amount.IsCents)
    (small : (orders.map fun order => order.gross.cents.natAbs
      + order.commission.cents.natAbs).sum < Decimal.limit)
    (smallRefund : (refunds.map (·.amount.cents.natAbs)).sum < Decimal.limit) :
    ofEntries orders refunds = ofEntries others otherRefunds := by
  have nets : ∀ order ∈ orders, order.gross.sub order.commission = .ok order.net
      ∧ order.net.IsCents
      ∧ order.net.cents = order.gross.cents - order.commission.cents := by
    intro order member
    have part := List.single_le_sum (fun _ _ => Nat.zero_le _) _
      (List.mem_map_of_mem (f := fun order : Settlement => order.gross.cents.natAbs
        + order.commission.cents.natAbs) member)
    exact Settlement.sub_eq_net (each order member).1 (each order member).2
      (Nat.lt_of_le_of_lt part small)
  have success : orders.mapM (fun order => order.gross.sub order.commission)
      = .ok (orders.map Settlement.net) := mapM_eq_ok fun order member => (nets order member).1
  have success_others : others.mapM (fun order => order.gross.sub order.commission)
      = .ok (others.map Settlement.net) :=
    mapM_eq_ok fun order member => (nets order (same.mem_iff.mpr member)).1
  have gross := fun figures => addAmounts_map_eq_of_perm figures "total_success" same
    (fun order member => (each order member).1) (fun order _ => Nat.le_add_right _ _) small
  have net := fun figures => addAmounts_map_eq_of_perm figures "success" same
    (fun order member => (nets order member).2.1) (fun order member => by
      rw [(nets order member).2.2]
      omega) small
  have commission := fun figures => addAmounts_map_eq_of_perm figures "commission" same
    (fun order member => (each order member).2) (fun order _ => Nat.le_add_left _ _) small
  have refund := fun figures => addAmounts_filter_eq_of_perm figures "refund" (!·.isChargeback)
    sameRefunds eachRefund smallRefund
  have chargeback := fun figures => addAmounts_filter_eq_of_perm figures "chargeback" (·.isChargeback)
    sameRefunds eachRefund smallRefund
  unfold ofEntries
  simp only [success, success_others, gross, commission, refund, chargeback, bind, Except.bind, net]

end Groups

end Paydesk
