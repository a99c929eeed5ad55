/-
**Amounts that are stored as text.**

The store in tables keeps the amount of a refund as the text with two places, and the amounts of an
order as texts in its document. An amount may be so large that it has no room for two places; then
its text has more digits than a decimal can hold, and still the same value is read of it.

* `TableStore.taken?`, `TableStore.recorded`: the refunds that a store takes, of one change and of
  changes one after another;
* `TableStore.refunds_change`, `TableStore.refunds_changed`: one change, and **all of them**: the
  rows are those of the refunds that were taken;
* `Refund.IsReadOf`, `RefundRow.exists_toRefund_ofRefund`: a refund as it is read of its row;
* `TableStore.refundsFor_changed`: **the refunds of a report are those that were taken for it**;
* `amounts_survive`: **amounts survive their texts**, by themselves, in rows and in documents.
-/

import Paydesk.Proofs.Decimal.Reading
import Paydesk.Proofs.Store.Reports

namespace Paydesk

/-! ### Refunds that a store takes -/

namespace TableStore

/-- The refund of a change that a store takes. -/
def taken? (table : TableStore) : StoreChange → Option Refund
  | .refund refund => if (table.addRefund refund).isOk then some refund else none
  | .insert _ | .update _ => none

/-- The refunds that a store takes, of changes one after another. -/
def recorded (table : TableStore) : List StoreChange → List Refund
  | [] => []
  | change :: rest =>
    (table.taken? change).toList ++ recorded (OrderStore.change table change) rest

theorem addRefund_eq {table after : TableStore} {refund : Refund}
    (taken : table.addRefund refund = .ok after) :
    after = { table with refunds := table.refunds ++ [RefundRow.ofRefund refund] } := by
  unfold addRefund whenOpen at taken
  split at taken
  · nomatch taken
  · cases known : table.row? refund.orderId with
    | none =>
      rw [known] at taken
      nomatch taken
    | some row =>
      rw [known] at taken
      exact (Except.ok.inj taken).symm

/-- **One change** adds the row of the refund that is taken. -/
theorem refunds_change (table : TableStore) (change : StoreChange) :
    (OrderStore.change table change).isClosed = table.isClosed
      ∧ (OrderStore.change table change).refunds
        = table.refunds ++ (table.taken? change).toList.map RefundRow.ofRefund := by
  cases change with
  | insert order =>
    obtain ⟨orders, after⟩ := table.exists_written_insert order
    have changed : OrderStore.change table (.insert order) = { table with orders } := after
    rw [changed]
    exact ⟨rfl, (List.append_nil _).symm⟩
  | update order =>
    obtain ⟨orders, after⟩ := table.exists_written_update order
    have changed : OrderStore.change table (.update order) = { table with orders } := after
    rw [changed]
    exact ⟨rfl, (List.append_nil _).symm⟩
  | refund refund =>
    have changed : OrderStore.change table (.refund refund)
        = (table.addRefund refund).toOption.getD table := rfl
    rw [changed, taken?]
    cases result : table.addRefund refund with
    | error => exact ⟨rfl, (List.append_nil _).symm⟩
    | ok after =>
      rw [addRefund_eq result]
      exact ⟨rfl, rfl⟩

/-- **After any changes** the rows are those of the refunds that were taken. -/
theorem refunds_changed (table : TableStore) (changes : List StoreChange) :
    (OrderStore.changed table changes).isClosed = table.isClosed
      ∧ (OrderStore.changed table changes).refunds
        = table.refunds ++ (table.recorded changes).map RefundRow.ofRefund := by
  unfold OrderStore.changed
  induction changes generalizing table with
  | nil => simp [recorded]
  | cons change changes hypothesis =>
    obtain ⟨isClosed, first⟩ := table.refunds_change change
    obtain ⟨isClosed_last, last⟩ := hypothesis (OrderStore.change table change)
    rw [List.foldl_cons]
    refine ⟨isClosed_last.trans isClosed, last.trans ?_⟩
    rw [first, recorded, List.map_append, List.append_assoc]

end TableStore

/-! ### Refunds as they are read -/

/-- A refund is read of the row of another: it is the same but for its time, and for the places that
its amount shows. -/
structure Refund.IsReadOf (back refund : Refund) : Prop where
  orderId : back.orderId = refund.orderId
  merchantId : back.merchantId = refund.merchantId
  amount : back.amount.sameValue refund.amount
  isChargeback : back.isChargeback = refund.isChargeback

theorem RefundRow.exists_toRefund_ofRefund (refund : Refund) :
    ∃ back, toRefund (ofRefund refund) = .ok back ∧ back.IsReadOf refund := by
  obtain ⟨amount, read, same⟩ := refund.amount.exists_read_write
  unfold toRefund ofRefund
  rw [read]
  exact ⟨_, rfl, rfl, rfl, same, rfl⟩

theorem RefundRow.exists_mapM_toRefund (refunds : List Refund) :
    ∃ found, (refunds.map ofRefund).mapM toRefund = .ok found
      ∧ List.Forall₂ Refund.IsReadOf found refunds := by
  induction refunds with
  | nil => exact ⟨[], rfl, .nil⟩
  | cons refund refunds hypothesis =>
    obtain ⟨back, first, isReadOf⟩ := exists_toRefund_ofRefund refund
    obtain ⟨found, rest, others⟩ := hypothesis
    refine ⟨back :: found, ?_, .cons isReadOf others⟩
    rw [List.map_cons, List.mapM_cons, first, rest]
    rfl

/-- **The refunds of a report** are those that were taken, of its merchant and in its time, each
read of its row. -/
theorem TableStore.refundsFor_changed (changes : List StoreChange) (request : ReportRequest) :
    ∃ found listed, OrderStore.refunds (OrderStore.changed TableStore.empty changes) request
        = .ok found
      ∧ List.Forall₂ Refund.IsReadOf found listed
      ∧ listed.Perm ((TableStore.empty.recorded changes).filter fun refund =>
        refund.merchantId == request.merchantId && isWithin request refund.createdAt.toMillis) := by
  obtain ⟨isOpen, rows⟩ := TableStore.empty.refunds_changed changes
  obtain ⟨found, read, isReadOf⟩ := RefundRow.exists_mapM_toRefund
    (((TableStore.empty.recorded changes).filter fun refund =>
      refund.merchantId == request.merchantId && isWithin request refund.createdAt.toMillis).mergeSort
        fun first second => first.createdAt.toMillis ≤ second.createdAt.toMillis)
  refine ⟨found, _, ?_, isReadOf, List.mergeSort_perm _ _⟩
  rw [← RefundRow.mergeSort_filter_map] at read
  change (OrderStore.changed TableStore.empty changes).refundsFor request = _
  rw [refundsFor, whenOpen_of_open isOpen, rows]
  exact read

/-! ### All texts of amounts -/

/-- **Amounts survive their texts.**

* Every amount is read of its text and of its document, with the same value.
* After whatever changes, the refunds of a report are those that were taken, of its merchant and in
  its time, each with an amount of the same value.
* An order is read of the text of its document exactly if the numbers among its parameters are, and
  every order that is read of it has all its amounts, each of the same value. -/
theorem amounts_survive :
    (∀ amount : Amount,
      (∃ back, Amount.read amount.write = .ok back ∧ back.sameValue amount)
        ∧ ∃ back, Json.read? (Json.ofAmount amount).write >>= Json.readAmount? = some back
          ∧ back.sameValue amount)
      ∧ (∀ (changes : List StoreChange) (request : ReportRequest), ∃ found listed,
        OrderStore.refunds (OrderStore.changed TableStore.empty changes) request = .ok found
          ∧ List.Forall₂ Refund.IsReadOf found listed
          ∧ listed.Perm ((TableStore.empty.recorded changes).filter fun refund =>
            refund.merchantId == request.merchantId
              && TableStore.isWithin request refund.createdAt.toMillis))
      ∧ ∀ order : Order,
        ((∃ back, Json.read? order.write.write >>= Order.read? = some back) ↔ order.IsReadable)
          ∧ ∀ back, Json.read? order.write.write >>= Order.read? = some back →
            ∃ amounts numbers, (∀ amount, (amounts amount).sameValue amount)
              ∧ back = order.mapNumbers amounts numbers := by
  refine ⟨fun amount => ⟨amount.exists_read_write, amount.reread, ?_, amount.sameValue_reread⟩,
    TableStore.refundsFor_changed, fun order => ?_⟩
  · rw [Json.read?_write (Json.plain_ofAmount amount)]
    exact amount.readAmount?_ofAmount
  · rw [order.read?_text_eq]
    by_cases readable : order.IsReadable
    · rw [if_pos readable]
      refine ⟨iff_of_true ⟨_, rfl⟩ readable, ?_⟩
      rintro back ⟨⟩
      exact ⟨Amount.reread, Decimal.reread, Amount.sameValue_reread, rfl⟩
    · rw [if_neg readable]
      exact ⟨iff_of_false (fun ⟨_, read⟩ => nomatch read) readable, fun _ read => nomatch read⟩

/-- **The least amount with one place** has no room for cents: its text has two places, and thirty
digits. -/
theorem amounts_survive_deepestDebt : ∃ debt : Amount,
    debt.value.signedCoefficient = 1 - Decimal.limit ∧ debt.value.scale = 1
      ∧ debt.write = "-7922816251426433759354395033.50"
      ∧ (∃ back, Amount.read "-7922816251426433759354395033.50" = .ok back ∧ back.sameValue debt)
      ∧ ∃ back, Json.read? ({ tenEuros with vat := debt } : Order).write.write >>= Order.read?
          = some back
        ∧ back.vat.sameValue debt := by
  let debt : Amount := ⟨.ofParts true (Decimal.limit - 1) 1 (by decide) (by decide), by decide⟩
  have text : debt.write = "-7922816251426433759354395033.50" := by decide +kernel
  obtain ⟨amounts, -, orders⟩ := amounts_survive
  obtain ⟨readable, same⟩ := orders { tenEuros with vat := debt }
  obtain ⟨back, read⟩ := readable.mpr (by decide)
  refine ⟨debt, by decide +kernel, rfl, text, text ▸ (amounts debt).1, back, read, ?_⟩
  obtain ⟨changed, numbers, keeps, rfl⟩ := same back read
  exact keeps debt

end Paydesk
