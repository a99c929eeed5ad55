/-
**Reports from the store in tables.**

Refunds are rows that name an order of the store, with their times in whole milliseconds. So a
report is made of the orders and refunds that the store in memory would choose for it, were all
times cut to milliseconds, and as totals do not depend on the sequence, both stores report the same
figures.

* `MemoryStore.Records`: every refund names an order that is in the store when it is added;
* `TableStore.Reports`: rows of orders and of refunds;
* `Reports.refundsFor_eq`, `Reports.settled_eq`: the refunds and orders that a report is made of;
* `Reports.revenueFigures_eq`, `Reports.accountingFigures_eq`: **the figures of both stores**;
* `times_agree`: **after any changes, whatever queries and reports ask of times**.
-/

import Paydesk.Proofs.Report.Totals
import Paydesk.Proofs.Store.Timing

namespace Paydesk

open OrderStore (written)

/-! ### Refunds in both stores -/

/-- The refund that a change adds, if it adds one. -/
def StoreChange.refund? : StoreChange → Option Refund
  | .refund added => some added
  | .insert _ | .update _ => none

/-- Every refund among changes names an order that is in the store when the refund is added. -/
def MemoryStore.Records (memory : MemoryStore) : List StoreChange → Prop
  | [] => True
  | change :: rest =>
    (∀ refund ∈ change.refund?, (memory.fetch refund.orderId).isSome)
      ∧ Records (OrderStore.change memory change) rest

namespace MemoryStore

instance decidableRecords : (memory : MemoryStore) → (changes : List StoreChange) →
    Decidable (memory.Records changes)
  | _, [] => isTrue trivial
  | memory, change :: rest =>
    have := decidableRecords (OrderStore.change memory change) rest
    inferInstanceAs (Decidable
      ((∀ refund ∈ change.refund?, (memory.fetch refund.orderId).isSome)
        ∧ Records (OrderStore.change memory change) rest))

variable (memory : MemoryStore) (order : Order)

theorem refunds_insert : (written memory (memory.insert order)).2.refunds = memory.refunds := by
  cases found : memory.fetch order.id with
  | some known =>
    rw [insert_taken found]
    rfl
  | none =>
    unfold insert
    split
    · rfl
    · rfl

theorem refunds_update : (written memory (memory.update order)).2.refunds = memory.refunds := by
  rcases memory.update_cases order with ⟨error, refused⟩ | replaced
  · rw [refused]
    rfl
  · rw [replaced]
    rfl

end MemoryStore

namespace TableStore

variable (table : TableStore) (order : Order)

/-- An order that is added changes nothing but the orders. -/
theorem exists_written_insert :
    ∃ orders, (written table (table.insert order)).2 = { table with orders } := by
  unfold insert whenOpen
  split
  · exact ⟨table.orders, rfl⟩
  · cases OrderRow.ofOrder order with
    | error => exact ⟨table.orders, rfl⟩
    | ok row =>
      cases table.row? order.id with
      | none => exact ⟨table.orders ++ [row], rfl⟩
      | some _ => exact ⟨table.orders, rfl⟩

/-- An order that is replaced changes nothing but the orders. -/
theorem exists_written_update :
    ∃ orders, (written table (table.update order)).2 = { table with orders } := by
  unfold update whenOpen
  split
  · exact ⟨table.orders, rfl⟩
  · cases OrderRow.ofOrder order with
    | error => exact ⟨table.orders, rfl⟩
    | ok row =>
      by_cases untouched : touched table.orders row = 0
      · simp only [bind, Except.bind, if_pos untouched]
        cases table.version? order.id <;> exact ⟨table.orders, rfl⟩
      · simp only [bind, Except.bind, if_neg untouched]
        cases order.nextVersion with
        | error => exact ⟨table.orders, rfl⟩
        | ok => exact ⟨overwrite table.orders row, rfl⟩

theorem refunds_insert : (written table (table.insert order)).2.refunds = table.refunds := by
  obtain ⟨orders, after⟩ := table.exists_written_insert order
  rw [after]

theorem refunds_update : (written table (table.update order)).2.refunds = table.refunds := by
  obtain ⟨orders, after⟩ := table.exists_written_update order
  rw [after]

end TableStore

/-- The rows of an open store were made of the orders and refunds in memory, and queries may look at
these orders. -/
structure TableStore.Reports (table : TableStore) (memory : MemoryStore) : Prop where
  answers : table.Answers memory
  refunds : table.refunds = memory.refunds.map RefundRow.ofRefund

/-- The refunds of both stores after one change. -/
theorem TableStore.Keeps.refunds_change {table : TableStore} {memory : MemoryStore}
    (keeps : table.Keeps memory) {change : StoreChange}
    (recorded : ∀ refund ∈ change.refund?, (memory.fetch refund.orderId).isSome)
    (same : table.refunds = memory.refunds.map RefundRow.ofRefund) :
    (OrderStore.change table change).refunds
      = (OrderStore.change memory change).refunds.map RefundRow.ofRefund := by
  cases change with
  | insert order =>
    exact (table.refunds_insert order).trans
      (same.trans (congrArg _ (memory.refunds_insert order).symm))
  | update order =>
    exact (table.refunds_update order).trans
      (same.trans (congrArg _ (memory.refunds_update order).symm))
  | refund refund =>
    obtain ⟨known, inMemory⟩ := Option.isSome_iff_exists.mp (recorded refund rfl)
    have found := keeps.lookup refund.orderId
    rw [inMemory] at found
    obtain ⟨row, inTable⟩ : ∃ row, table.row? refund.orderId = some row := by
      cases inTable : table.row? refund.orderId with
      | some row => exact ⟨row, rfl⟩
      | none =>
        rw [inTable] at found
        nomatch found
    have added : table.addRefund refund
        = .ok { table with refunds := table.refunds ++ [RefundRow.ofRefund refund] } := by
      unfold TableStore.addRefund
      rw [TableStore.whenOpen_of_open keeps.isOpen, inTable]
    change ((table.addRefund refund).toOption.getD table).refunds
      = (memory.refunds ++ [refund]).map RefundRow.ofRefund
    rw [added, List.map_append, ← same]
    rfl

/-- The refunds of both stores after one change after another. -/
theorem TableStore.Keeps.refunds_changed {table : TableStore} {memory : MemoryStore}
    (keeps : table.Keeps memory) {changes : List StoreChange}
    (fits : ∀ change ∈ changes, ∀ order ∈ change.order?, order.projectIncome.toMinor?.isSome)
    (recorded : memory.Records changes)
    (same : table.refunds = memory.refunds.map RefundRow.ofRefund) :
    (OrderStore.changed table changes).refunds
      = (OrderStore.changed memory changes).refunds.map RefundRow.ofRefund := by
  unfold OrderStore.changed
  induction changes generalizing table memory with
  | nil => exact same
  | cons change changes hypothesis =>
    rw [List.forall_mem_cons] at fits
    obtain ⟨first, rest⟩ := recorded
    exact hypothesis (keeps.change fits.1) fits.2 rest (keeps.refunds_change first same)

/-! ### What a report is made of -/

/-- The rows that a report is made of are those of the refunds that it is made of, by time. -/
theorem RefundRow.mergeSort_filter_map (refunds : List Refund) (request : ReportRequest) :
    (((refunds.map ofRefund).filter fun row => row.merchantId == request.merchantId
        && TableStore.isWithin request row.createdAt).mergeSort
          fun first second => first.createdAt ≤ second.createdAt)
      = ((refunds.filter fun refund => refund.merchantId == request.merchantId
          && TableStore.isWithin request refund.createdAt.toMillis).mergeSort
            fun first second => first.createdAt.toMillis ≤ second.createdAt.toMillis).map
          ofRefund := by
  rw [List.filter_map]
  exact (List.map_mergeSort (f := ofRefund) fun first _ second _ => rfl).symm

/-- What is read of the row of a refund in cents and in no leap second. -/
theorem RefundRow.toRefund_ofRefund {refund : Refund} (isCents : refund.amount.IsCents)
    (common : refund.createdAt.nanos < 1000000000) :
    toRefund (ofRefund refund) = .ok refund.inMillis := by
  unfold toRefund ofRefund
  simp only [isCents.read_write, (Instant.ofMillis?_of_common common).1, Option.getD_some]
  rfl

theorem RefundRow.mapM_toRefund {refunds : List Refund}
    (each : ∀ refund ∈ refunds, refund.amount.IsCents ∧ refund.createdAt.nanos < 1000000000) :
    (refunds.map ofRefund).mapM toRefund = .ok (refunds.map Refund.inMillis) := by
  induction refunds with
  | nil => rfl
  | cons refund rest hypothesis =>
    rw [List.forall_mem_cons] at each
    obtain ⟨⟨isCents, common⟩, others⟩ := each
    rw [List.map_cons, List.mapM_cons, toRefund_ofRefund isCents common, hypothesis others]
    rfl

/-- What a report on orders and refunds needs: amounts in cents, no leap seconds, and totals that
fit an amount. -/
structure MemoryStore.IsReportable (memory : MemoryStore) : Prop where
  settlements : ∀ order ∈ memory.orders,
    order.settlement.gross.IsCents ∧ order.settlement.commission.IsCents
  closings : ∀ order ∈ memory.orders, ∀ closed ∈ order.methodClosedAt, closed.nanos < 1000000000
  refunds : ∀ refund ∈ memory.refunds,
    refund.amount.IsCents ∧ refund.createdAt.nanos < 1000000000
  settled_total : (memory.orders.map fun order => order.settlement.gross.cents.natAbs
    + order.settlement.commission.cents.natAbs).sum < Decimal.limit
  refund_total : (memory.refunds.map fun refund => refund.amount.cents.natAbs).sum < Decimal.limit

instance (memory : MemoryStore) : Decidable memory.IsReportable :=
  decidable_of_iff
    ((∀ order ∈ memory.orders,
        order.settlement.gross.IsCents ∧ order.settlement.commission.IsCents)
      ∧ (∀ order ∈ memory.orders, ∀ closed ∈ order.methodClosedAt, closed.nanos < 1000000000)
      ∧ (∀ refund ∈ memory.refunds, refund.amount.IsCents ∧ refund.createdAt.nanos < 1000000000)
      ∧ (memory.orders.map fun order => order.settlement.gross.cents.natAbs
          + order.settlement.commission.cents.natAbs).sum < Decimal.limit
      ∧ (memory.refunds.map fun refund => refund.amount.cents.natAbs).sum < Decimal.limit)
    ⟨fun ⟨settlements, closings, refunds, settled, refunded⟩ =>
        ⟨settlements, closings, refunds, settled, refunded⟩,
      fun ⟨settlements, closings, refunds, settled, refunded⟩ =>
        ⟨settlements, closings, refunds, settled, refunded⟩⟩

namespace TableStore.Reports

variable {table : TableStore} {memory : MemoryStore}

/-- **Both stores after the same changes**, refunds included. -/
theorem changed {changes : List StoreChange}
    (queryable : ∀ change ∈ changes, ∀ order ∈ change.order?, order.IsQueryable)
    (recorded : MemoryStore.empty.Records changes) :
    (OrderStore.changed TableStore.empty changes).Reports
      (OrderStore.changed MemoryStore.empty changes) :=
  ⟨.changed queryable, TableStore.Keeps.empty.refunds_changed
    (fun change member order written => (queryable change member order written).hasMinor) recorded
    rfl⟩

/-- The refunds that a report is made of are listed by time in the store in tables. -/
theorem refundsFor_eq (reports : table.Reports memory) (reportable : memory.IsReportable)
    (request : ReportRequest) :
    ∃ chosen listed : List Refund, listed.Perm chosen ∧ chosen.Sublist memory.refunds
      ∧ OrderStore.refunds table request = .ok (listed.map Refund.inMillis)
      ∧ OrderStore.refunds memory.inMillis request.inMillis = .ok (chosen.map Refund.inMillis) := by
  let isPart : Refund → Bool := fun refund =>
    refund.merchantId == request.merchantId && isWithin request refund.createdAt.toMillis
  let chosen := memory.refunds.filter isPart
  let listed := chosen.mergeSort fun first second =>
    first.createdAt.toMillis ≤ second.createdAt.toMillis
  refine ⟨chosen, listed, List.mergeSort_perm _ _, List.filter_sublist, ?_, ?_⟩
  · have rows : ((table.refunds.filter fun row =>
        row.merchantId == request.merchantId && isWithin request row.createdAt).mergeSort
          fun first second => first.createdAt ≤ second.createdAt)
        = listed.map RefundRow.ofRefund := by
      rw [reports.refunds]
      exact RefundRow.mergeSort_filter_map memory.refunds request
    change table.refundsFor request = _
    rw [refundsFor, whenOpen_of_open reports.answers.isOpen, rows]
    exact RefundRow.mapM_toRefund fun refund member =>
      reportable.refunds refund (List.mem_filter.mp (List.mem_mergeSort.mp member)).1
  · have same (refund : Refund) : isPart refund
        = (refund.inMillis.merchantId == request.inMillis.merchantId
          && request.inMillis.contains refund.inMillis.createdAt) := by
      simp only [isPart, isWithin_eq]
      rfl
    have chosen_eq : chosen = memory.refunds.filter fun refund =>
        refund.inMillis.merchantId == request.inMillis.merchantId
          && request.inMillis.contains refund.inMillis.createdAt :=
      List.filter_congr fun refund _ => same refund
    change Except.ok (memory.inMillis.refundsFor request.inMillis) = _
    unfold MemoryStore.refundsFor MemoryStore.inMillis
    rw [List.filter_map, chosen_eq]
    rfl

/-- The orders that a report is made of are listed by time in the store in tables. -/
theorem settled_eq (reports : table.Reports memory) (request : ReportRequest) :
    ∃ chosen listed : List Order, listed.Perm chosen ∧ chosen.Sublist memory.orders
      ∧ OrderStore.settled table request = .ok (listed.map Order.readBack)
      ∧ OrderStore.settled memory.inMillis request.inMillis = .ok (chosen.map Order.inMillis) :=
  ⟨_, _, List.mergeSort_perm _ _, List.filter_sublist, reports.answers.settled_eq request,
    congrArg Except.ok (memory.found_inMillis _)⟩

end TableStore.Reports

/-! ### Figures -/

theorem PointDate.ofInstant_inMillis (period : Period) {instant : Instant}
    (common : instant.nanos < 1000000000) :
    ofInstant period instant.inMillis = ofInstant period instant := by
  have seconds := (Instant.ofMillis?_of_common common).2
  unfold ofInstant Instant.date Instant.hour Instant.secondOfDay Instant.day
  rw [seconds]

/-- A settled order as it is read brings its merchant what the order does. -/
theorem Order.settlement_readBack {order : Order} (gross : order.settlement.gross.IsCents)
    (commission : order.settlement.commission.IsCents) :
    order.readBack.settlement = order.settlement := by
  have gross_same : order.readBack.outMerchantCurrency = order.outMerchantCurrency :=
    gross.reread_eq
  have fee_same : (order.readBack.projectFee.map (·.inMerchantCurrency)).getD .zero
      = (order.projectFee.map (·.inMerchantCurrency)).getD .zero := by
    change ((order.projectFee.map (·.mapAmounts Amount.reread)).map (·.inMerchantCurrency)).getD .zero
      = _
    unfold settlement at commission
    cases fee : order.projectFee with
    | none => rfl
    | some bucket =>
      rw [fee] at commission
      obtain ⟨amount, merchant, psp, system⟩ := bucket
      cases merchant with
      | none => rfl
      | some figure => exact commission.reread_eq
  unfold settlement
  rw [gross_same, fee_same]

/-- The revenue of an order as it is read falls on the date of the order in whole milliseconds. -/
theorem Order.dated_readBack {order : Order} (period : Period)
    (gross : order.settlement.gross.IsCents)
    (common : ∀ closed ∈ order.methodClosedAt, closed.nanos < 1000000000) :
    order.readBack.revenueEntry?.map (Entry.dated period)
      = order.inMillis.revenueEntry?.map (Entry.dated period) := by
  have gross_same : order.readBack.outMerchantCurrency = order.outMerchantCurrency :=
    gross.reread_eq
  have closed_same : order.readBack.methodClosedAt = order.methodClosedAt := rfl
  unfold revenueEntry?
  rw [gross_same, closed_same]
  cases closed : order.methodClosedAt with
  | none => simp [inMillis, closed]
  | some instant =>
    have date := PointDate.ofInstant_inMillis period (common instant closed)
    simp [inMillis, closed, Entry.dated, date]

/-- Orders as they are read have the revenue of the orders in whole milliseconds. -/
theorem Order.revenue_perm (period : Period) {chosen listed : List Order}
    (same : listed.Perm chosen)
    (gross : ∀ order ∈ chosen, order.settlement.gross.IsCents)
    (common : ∀ order ∈ chosen, ∀ closed ∈ order.methodClosedAt, closed.nanos < 1000000000) :
    (((chosen.map inMillis).filterMap revenueEntry?).map (Entry.dated period)).Perm
      (((listed.map readBack).filterMap revenueEntry?).map (Entry.dated period)) := by
  rw [List.map_filterMap, List.map_filterMap, List.filterMap_map, List.filterMap_map]
  have read : listed.filterMap (fun order => order.inMillis.revenueEntry?.map (Entry.dated period))
      = listed.filterMap fun order => order.readBack.revenueEntry?.map (Entry.dated period) :=
    List.filterMap_congr fun order member => (dated_readBack period
      (gross order (same.subset member)) (common order (same.subset member))).symm
  exact (same.symm.filterMap _).trans (List.Perm.of_eq read)

/-- The revenue of orders comes from these orders. -/
theorem Order.mem_revenueEntries {orders : List Order} {entry : Entry}
    (member : entry ∈ orders.filterMap revenueEntry?) :
    ∃ order ∈ orders, entry.amount = order.settlement.gross := by
  obtain ⟨order, inside, found⟩ := List.mem_filterMap.mp member
  obtain ⟨closed, -, rfl⟩ := Option.map_eq_some_iff.mp found
  exact ⟨order, inside, rfl⟩

theorem Order.sum_revenueEntries_le (orders : List Order) :
    ((orders.filterMap revenueEntry?).map (·.amount.cents.natAbs)).sum
      ≤ (orders.map fun order => order.settlement.gross.cents.natAbs
        + order.settlement.commission.cents.natAbs).sum := by
  induction orders with
  | nil => exact Nat.le_refl 0
  | cons order rest hypothesis =>
    rw [List.map_cons, List.sum_cons]
    cases entry : order.revenueEntry? with
    | none =>
      rw [List.filterMap_cons_none entry]
      omega
    | some found =>
      have amount : found.amount = order.settlement.gross := by
        obtain ⟨closed, -, rfl⟩ := Option.map_eq_some_iff.mp entry
        rfl
      rw [List.filterMap_cons_some entry, List.map_cons, List.sum_cons, amount]
      omega

namespace MemoryStore.IsReportable

variable {memory : MemoryStore}

/-- The totals of some of the orders fit an amount. -/
theorem settled_total_lt (reportable : memory.IsReportable) {orders : List Order}
    (inside : orders.Sublist memory.orders) :
    (orders.map fun order => order.settlement.gross.cents.natAbs
      + order.settlement.commission.cents.natAbs).sum < Decimal.limit :=
  Nat.lt_of_le_of_lt ((inside.map _).sum_le_sum fun _ _ => Nat.zero_le _) reportable.settled_total

/-- The totals of some of the refunds fit an amount. -/
theorem refund_total_lt (reportable : memory.IsReportable) {refunds : List Refund}
    (inside : refunds.Sublist memory.refunds) :
    (refunds.map fun refund => refund.amount.cents.natAbs).sum < Decimal.limit :=
  Nat.lt_of_le_of_lt ((inside.map _).sum_le_sum fun _ _ => Nat.zero_le _) reportable.refund_total

end MemoryStore.IsReportable

namespace TableStore.Reports

variable {table : TableStore} {memory : MemoryStore}

/-- **Both stores report the same revenue.** -/
theorem revenueFigures_eq (reports : table.Reports memory) (reportable : memory.IsReportable)
    (request : ReportRequest) :
    revenueFigures table request = revenueFigures memory.inMillis request.inMillis := by
  obtain ⟨orders, listed, same, inside, settled, settled_memory⟩ := reports.settled_eq request
  obtain ⟨refunds, listedRefunds, sameRefunds, insideRefunds, refunded, refunded_memory⟩ :=
    reports.refundsFor_eq reportable request
  have stored := inside.subset
  have gross : ∀ order ∈ orders, order.settlement.gross.IsCents :=
    fun order member => (reportable.settlements order (stored member)).1
  have revenue_same := Order.revenue_perm request.period same gross
    (fun order member => reportable.closings order (stored member))
  have revenue_cents : ∀ entry ∈ (orders.map Order.inMillis).filterMap Order.revenueEntry?,
      entry.amount.IsCents := by
    intro entry member
    obtain ⟨order, inMillis, amount⟩ := Order.mem_revenueEntries member
    obtain ⟨known, chosen, rfl⟩ := List.mem_map.mp inMillis
    rw [amount]
    exact gross known chosen
  have revenue_total := Order.sum_revenueEntries_le (orders.map Order.inMillis)
  rw [List.map_map] at revenue_total
  have refund_cents : ∀ entry ∈ (refunds.map Refund.inMillis).map Refund.entry,
      entry.amount.IsCents := by
    intro entry member
    rw [List.map_map] at member
    obtain ⟨refund, chosen, rfl⟩ := List.mem_map.mp member
    exact (reportable.refunds refund (insideRefunds.subset chosen)).1
  have refund_total := reportable.refund_total_lt insideRefunds
  have figures := RevenueFigures.ofEntries_eq_of_perm revenue_same
    (((sameRefunds.symm.map Refund.inMillis).map Refund.entry).map (Entry.dated request.period))
    revenue_cents refund_cents
    (Nat.lt_of_le_of_lt revenue_total (reportable.settled_total_lt inside))
    (by rw [List.map_map, List.map_map]; exact refund_total)
  unfold revenueFigures
  rw [settled, refunded, settled_memory, refunded_memory]
  exact congrArg (Except.mapError ReportError.overflow) figures.symm

/-- **Both stores report the same totals by group.** -/
theorem accountingFigures_eq (reports : table.Reports memory) (reportable : memory.IsReportable)
    (request : ReportRequest) :
    accountingFigures table request = accountingFigures memory.inMillis request.inMillis := by
  obtain ⟨orders, listed, same, inside, settled, settled_memory⟩ := reports.settled_eq request
  obtain ⟨refunds, listedRefunds, sameRefunds, insideRefunds, refunded, refunded_memory⟩ :=
    reports.refundsFor_eq reportable request
  have read : (listed.map Order.readBack).map Order.settlement = listed.map Order.settlement := by
    rw [List.map_map]
    refine List.map_congr_left fun order member => ?_
    obtain ⟨gross, commission⟩ :=
      reportable.settlements order (inside.subset (same.subset member))
    exact Order.settlement_readBack gross commission
  have cut : (orders.map Order.inMillis).map Order.settlement = orders.map Order.settlement := by
    rw [List.map_map]
    rfl
  have settlements : ∀ settlement ∈ orders.map Order.settlement,
      settlement.gross.IsCents ∧ settlement.commission.IsCents :=
    List.forall_mem_map.mpr fun order member => reportable.settlements order (inside.subset member)
  have refund_cents : ∀ refund ∈ refunds.map Refund.inMillis, refund.amount.IsCents :=
    List.forall_mem_map.mpr fun refund member =>
      (reportable.refunds refund (insideRefunds.subset member)).1
  have figures := AccountingFigures.ofEntries_eq_of_perm (same.symm.map Order.settlement)
    (sameRefunds.symm.map Refund.inMillis) settlements refund_cents
    (by rw [List.map_map]; exact reportable.settled_total_lt inside)
    (by rw [List.map_map]; exact reportable.refund_total_lt insideRefunds)
  unfold accountingFigures
  rw [settled, refunded, settled_memory, refunded_memory]
  simp only [bind, Except.bind, Except.mapError, read, cut, figures]

end TableStore.Reports

/-! ### Whole milliseconds -/

/-- All times of a store are whole milliseconds. -/
structure MemoryStore.IsWhole (memory : MemoryStore) : Prop where
  orders : ∀ order ∈ memory.orders,
    order.createdAt.IsWhole ∧ ∀ closed ∈ order.methodClosedAt, closed.IsWhole
  refunds : ∀ refund ∈ memory.refunds, refund.createdAt.IsWhole

/-- **A store whose times are whole milliseconds loses nothing when they are cut.** -/
theorem MemoryStore.inMillis_of_isWhole {memory : MemoryStore} (whole : memory.IsWhole) :
    memory.inMillis = memory := by
  have orders : memory.orders.map Order.inMillis = memory.orders := by
    refine (List.map_congr_left fun order member => ?_).trans memory.orders.map_id
    obtain ⟨created, closings⟩ := whole.orders order member
    have closed : order.methodClosedAt.map Instant.inMillis = order.methodClosedAt := by
      cases time : order.methodClosedAt with
      | none => rfl
      | some closed => exact congrArg some (Instant.inMillis_of_isWhole (closings closed time))
    unfold Order.inMillis
    rw [Instant.inMillis_of_isWhole created, closed]
    rfl
  have refunds : memory.refunds.map Refund.inMillis = memory.refunds := by
    refine (List.map_congr_left fun refund member => ?_).trans memory.refunds.map_id
    unfold Refund.inMillis
    rw [Instant.inMillis_of_isWhole (whole.refunds refund member)]
    rfl
  cases memory
  simp only at orders refunds
  simp only [inMillis, orders, refunds]

/-- **The two stores and times.** After whatever changes, the store in tables answers as the store
in memory would with all its times, and those of a report, cut to whole milliseconds:

* for every envelope and page, time ranges and keys included, it counts as many orders and returns
  orders of the same ids in the same sequence;
* for every request it reports the same revenue and the same totals by group;
* if all times are whole milliseconds, that is the store in memory as it is. -/
theorem times_agree (changes : List StoreChange)
    (queryable : ∀ change ∈ changes, ∀ order ∈ change.order?, order.IsQueryable)
    (recorded : MemoryStore.empty.Records changes)
    (reportable : (OrderStore.changed MemoryStore.empty changes).IsReportable) :
    let table := OrderStore.changed TableStore.empty changes
    let memory := OrderStore.changed MemoryStore.empty changes
    (∀ (envelope : Envelope) (accessible : List String) (page : PageRequest),
      envelope.IsSearchable →
        let query := page.query (envelope.condition accessible)
        table.count query.condition = .ok (memory.inMillis.count query.condition)
        ∧ ∃ found, table.search query = .ok found
          ∧ found.map (·.id) = (memory.inMillis.search query).map (·.id))
    ∧ (∀ request : ReportRequest,
        revenueFigures table request = revenueFigures memory.inMillis request.inMillis
        ∧ accountingFigures table request = accountingFigures memory.inMillis request.inMillis)
    ∧ (memory.IsWhole → memory.inMillis = memory) := by
  intro table memory
  have reports : table.Reports memory := .changed queryable recorded
  refine ⟨?_, fun request => ⟨reports.revenueFigures_eq reportable request,
    reports.accountingFigures_eq reportable request⟩, MemoryStore.inMillis_of_isWhole⟩
  intro envelope accessible page searchable query
  have typed : query.condition.Every Condition.IsTyped := by
    rw [PageRequest.query_condition]
    exact Envelope.isTyped_condition accessible searchable
  obtain ⟨found, searched, same⟩ := reports.answers.search_inMillis typed
  refine ⟨reports.answers.count_inMillis typed, _, searched, ?_⟩
  rw [← same, List.map_map, List.map_map]
  rfl

/-- An order that was closed, and given back in part, some microseconds after it was created. -/
def closedAtOnce : List StoreChange :=
  let created : Instant := ⟨1700000000, 400000, by decide, by decide, by decide⟩
  let closed : Instant := ⟨1700000000, 500000, by decide, by decide, by decide⟩
  [.insert { tenEuros with status := .complete, createdAt := created, methodClosedAt := closed },
    .refund ⟨"first", "merchant", .ofInt 3, false, closed⟩]

/-- The bound of a time range lies some microseconds before the order: in the store in tables they
are the same time. -/
theorem times_agree_closedAtOnce :
    let untilThen : Envelope := Dict.empty.insert "project_date_to" ["1700000000"]
    let query := PageRequest.query {} (untilThen.condition ["shop"])
    (OrderStore.changed TableStore.empty closedAtOnce).count query.condition = .ok 1
      ∧ (OrderStore.changed MemoryStore.empty closedAtOnce).count query.condition = 0 := by
  intro untilThen query
  obtain ⟨queries, -, -⟩ := times_agree closedAtOnce (by decide +kernel) (by decide +kernel)
    (by decide +kernel)
  obtain ⟨count, -⟩ := queries untilThen ["shop"] {} (by decide +kernel)
  exact ⟨count.trans (by decide +kernel), by decide +kernel⟩

end Paydesk
