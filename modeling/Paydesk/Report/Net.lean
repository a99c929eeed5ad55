/-
**Net revenue and the accounting payment.**

Refunds of a date are taken from the revenue of the same date; refunds of a date without revenue do
not show. The accounting payment is read off the groups, nothing where a group is missing.

* `RevenueFigures.net`: net revenue by date with both summaries;
* `AccountingFigures.payment`: the five totals.
-/

import Paydesk.Report.Figures

namespace Paydesk

/-- Net revenue on a date. -/
structure NetPoint where
  date : PointDate
  amount : Amount
  deriving DecidableEq

/-- Net revenue by date. -/
structure NetRevenue where
  points : List NetPoint
  revenue : Summary
  refund : Summary
  deriving DecidableEq

/-- The refunds of a date; the last of several buckets counts. -/
def refundOn? (refunds : List Bucket) (date : PointDate) : Option Amount :=
  (refunds.reverse.find? fun bucket => bucket.date == date).map (·.total)

/-- The revenue of a bucket without the refunds of its date. -/
def netPoint (refunds : List Bucket) (bucket : Bucket) : Except Overflow NetPoint :=
  match refundOn? refunds bucket.date with
  | some refund => do return ⟨bucket.date, ← bucket.total.sub refund⟩
  | none => .ok ⟨bucket.date, bucket.total⟩

/-- Net revenue by date. -/
def RevenueFigures.net (figures : RevenueFigures) : Except Overflow NetRevenue := do
  let points ← figures.revenueBuckets.mapM (netPoint figures.refundBuckets)
  return ⟨points, figures.revenue.getD .none, figures.refund.getD .none⟩

/-- What a merchant is paid and what is kept back. -/
structure AccountingPayment where
  successWithCommissions : Amount
  successWithoutCommissions : Amount
  totalRefund : Amount
  totalChargeback : Amount
  totalCommission : Amount
  deriving DecidableEq

namespace AccountingFigures

/-- The total of a group's first summary. -/
def total (figures : AccountingFigures) (group : String) : Amount :=
  ((figures.get? group >>= List.head?).map (·.total)).getD .unset

/-- The accounting payment. -/
def payment (figures : AccountingFigures) : AccountingPayment :=
  { successWithCommissions := figures.total "total_success"
    successWithoutCommissions := figures.total "success"
    totalRefund := figures.total "refund"
    totalChargeback := figures.total "chargeback"
    totalCommission := figures.total "commission" }

end AccountingFigures

/-- The document of net revenue. -/
def NetRevenue.write (net : NetRevenue) : Json :=
  .object
    [("points", Json.writeList (fun point : NetPoint =>
        .object [("date", point.date.write), ("amount", Json.ofAmount point.amount)]) net.points),
      ("revenue", net.revenue.write), ("refund", net.refund.write)]

/-- The document of an accounting payment. -/
def AccountingPayment.write (payment : AccountingPayment) : Json :=
  .object
    [("success_with_commissions", Json.ofAmount payment.successWithCommissions),
      ("success_without_commissions", Json.ofAmount payment.successWithoutCommissions),
      ("total_refund", Json.ofAmount payment.totalRefund),
      ("total_chargeback", Json.ofAmount payment.totalChargeback),
      ("total_commission", Json.ofAmount payment.totalCommission)]

end Paydesk
