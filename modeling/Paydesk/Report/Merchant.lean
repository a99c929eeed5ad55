/-
**Reports for merchants.**

A report looks at the orders of a merchant that were completed and closed in some time, and at the
refunds of that time.

* `revenueFigures`, `accountingFigures`: the figures of a store's orders and refunds;
* `netRevenue`, `accountingPayment`: the two reports.
-/

import Paydesk.Report.Net
import Paydesk.Store.Basic

namespace Paydesk

/-- Why there is no report. -/
inductive ReportError where
  | store (error : StoreError)
  | overflow (overflow : Overflow)
  deriving DecidableEq

/-- The revenue of a settled order, at the time it was closed. -/
def Order.revenueEntry? (order : Order) : Option Entry :=
  order.methodClosedAt.map fun time => ⟨time, order.outMerchantCurrency⟩

/-- What a settled order brings its merchant, and the commission in it. -/
def Order.settlement (order : Order) : Settlement :=
  ⟨order.outMerchantCurrency,
    (order.projectFee.map (·.inMerchantCurrency)).getD .zero⟩

/-- The money of a refund, at the time it was given back. -/
def Refund.entry (refund : Refund) : Entry := ⟨refund.createdAt, refund.amount⟩

section Figures

variable {σ : Type} [OrderStore σ]

/-- Revenue and refunds by date. -/
def revenueFigures (store : σ) (request : ReportRequest) : Except ReportError RevenueFigures := do
  let orders ← (OrderStore.settled store request).mapError .store
  let refunds ← (OrderStore.refunds store request).mapError .store
  (RevenueFigures.ofEntries request.period (orders.filterMap Order.revenueEntry?)
    (refunds.map Refund.entry)).mapError .overflow

/-- Totals by group. -/
def accountingFigures (store : σ) (request : ReportRequest) :
    Except ReportError AccountingFigures := do
  let orders ← (OrderStore.settled store request).mapError .store
  let refunds ← (OrderStore.refunds store request).mapError .store
  (AccountingFigures.ofEntries (orders.map Order.settlement) refunds).mapError .overflow

/-- Net revenue by date. -/
def netRevenue (store : σ) (request : ReportRequest) : Except ReportError NetRevenue := do
  let figures ← revenueFigures store request
  figures.net.mapError .overflow

/-- What the merchant is paid and what is kept back. -/
def accountingPayment (store : σ) (request : ReportRequest) :
    Except ReportError AccountingPayment := do
  return (← accountingFigures store request).payment

end Figures

end Paydesk
