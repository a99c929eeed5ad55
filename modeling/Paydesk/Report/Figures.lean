/-
**Figures of reports.**

Entries of money are summed up in all and by date. Revenue and refunds have figures by date;
accounting has figures by group.

* `Summary.ofAmounts`: count, total and average;
* `buckets`: the sum of each date's entries, by ascending date;
* `RevenueFigures.ofEntries`, `AccountingFigures.ofEntries`: the figures of a merchant.
-/

import Paydesk.Report.Period

namespace Paydesk

/-- What a merchant asks a report for. -/
structure ReportRequest where
  merchantId : String
  least : Instant
  most : Instant
  period : Period
  deriving DecidableEq

namespace ReportRequest

/-- A request for whole days, from the start of one to the end of another. -/
def wholeDays (merchantId : String) (least most : Instant) (period : Period) : ReportRequest :=
  ⟨merchantId, least.dayStart, most.dayEnd, period⟩

/-- Whether an instant lies in the request's time. -/
def contains (request : ReportRequest) (instant : Instant) : Bool :=
  request.least.atMost instant && instant.atMost request.most

/-- The request of a document. -/
def read? : Json → Option ReportRequest :=
  Json.readRecord? do
    let merchantId ← Json.part "merchant_id" Json.text?
    let least ← Json.part "from" Json.readInstant?
    let most ← Json.part "to" Json.readInstant?
    let period ← Json.part "period" Period.read?
    return { merchantId, least, most, period }

/-- The document of a request. -/
def write (request : ReportRequest) : Json :=
  .object
    [("merchant_id", .text request.merchantId), ("from", Json.ofInstant request.least),
      ("to", Json.ofInstant request.most), ("period", request.period.write)]

end ReportRequest

/-- Money given back for an order, in the merchant's accounting currency. -/
structure Refund where
  orderId : String
  merchantId : String
  amount : Amount
  /-- Whether the payer's bank took the money back. -/
  isChargeback : Bool
  createdAt : Instant
  deriving DecidableEq

namespace Refund

/-- The refund of a document. -/
def read? : Json → Option Refund :=
  Json.readRecord? do
    let orderId ← Json.part "order_id" Json.text?
    let merchantId ← Json.part "merchant_id" Json.text?
    let amount ← Json.part "amount" Json.readAmount?
    let isChargeback ← Json.part "is_chargeback" Json.readBool?
    let createdAt ← Json.part "created_at" Json.readInstant?
    return { orderId, merchantId, amount, isChargeback, createdAt }

/-- The document of a refund. -/
def write (refund : Refund) : Json :=
  .object
    [("order_id", .text refund.orderId), ("merchant_id", .text refund.merchantId),
      ("amount", Json.ofAmount refund.amount), ("is_chargeback", .bool refund.isChargeback),
      ("created_at", Json.ofInstant refund.createdAt)]

end Refund

/-- Money at some time. -/
structure Entry where
  time : Instant
  amount : Amount
  deriving DecidableEq

/-- The sum of the entries of one date. -/
structure Bucket where
  date : PointDate
  total : Amount
  deriving DecidableEq

namespace Bucket

/-- The bucket of a document. -/
def read? : Json → Option Bucket :=
  Json.readRecord? do
    let date ← Json.part "date" PointDate.read?
    let total ← Json.part "total" Json.readAmount?
    return { date, total }

/-- The document of a bucket. -/
def write (bucket : Bucket) : Json :=
  .object [("date", bucket.date.write), ("total", Json.ofAmount bucket.total)]

end Bucket

/-- Sums by date with one more entry. -/
def addEntry (period : Period) (sums : Dict PointDate Amount) (entry : Entry) :
    Except Overflow (Dict PointDate Amount) := do
  let date := PointDate.ofInstant period entry.time
  let sum ← ((sums.get? date).getD .unset).add entry.amount
  return sums.insert date sum

/-- The sum of each date's entries, by ascending date. -/
def buckets (period : Period) (entries : List Entry) : Except Overflow (List Bucket) := do
  let sums ← entries.foldlM (addEntry period) ∅
  return sums.entries.map fun (date, total) => ⟨date, total⟩

/-- A number of amounts, their total and their average. -/
structure Summary where
  count : Nat
  total : Amount
  average : Amount
  deriving DecidableEq

namespace Summary

/-- The summary of nothing. -/
def none : Summary := ⟨0, .unset, .unset⟩

/-- The average of a total; there is none of nothing. -/
def averageOf (total : Amount) (count : Nat) : Amount :=
  ((Decimal.ofParts? false count 0).bind total.div?).getD .unset

/-- The summary of a list of amounts. -/
def ofAmounts (amounts : List Amount) : Except Overflow Summary := do
  let total ← Amount.sum amounts
  return ⟨amounts.length, total, averageOf total amounts.length⟩

/-- The summary of a list of amounts, if there are any. -/
def ofAmounts? (amounts : List Amount) : Except Overflow (Option Summary) :=
  if amounts.isEmpty then .ok .none else (ofAmounts amounts).map some

/-- The summary of a document. -/
def read? : Json → Option Summary :=
  Json.readRecord? do
    let count ← Json.part "count" Json.readNat64?
    let total ← Json.part "total" Json.readAmount?
    let average ← Json.part "avg" Json.readAmount?
    return { count, total, average }

/-- The document of a summary. -/
def write (summary : Summary) : Json :=
  .object
    [("count", .int summary.count), ("total", Json.ofAmount summary.total),
      ("avg", Json.ofAmount summary.average)]

end Summary

/-- A merchant's revenue and refunds. -/
structure RevenueFigures where
  revenueBuckets : List Bucket
  refundBuckets : List Bucket
  revenue : Option Summary
  refund : Option Summary
  deriving DecidableEq

namespace RevenueFigures

/-- The figures of revenue and refund entries. -/
def ofEntries (period : Period) (revenue refunds : List Entry) :
    Except Overflow RevenueFigures := do
  let revenueSummary ← Summary.ofAmounts? (revenue.map (·.amount))
  let refundSummary ← Summary.ofAmounts? (refunds.map (·.amount))
  let revenueBuckets ← buckets period revenue
  let refundBuckets ← buckets period refunds
  return ⟨revenueBuckets, refundBuckets, revenueSummary, refundSummary⟩

/-- The figures of a document. -/
def read? : Json → Option RevenueFigures :=
  Json.readRecord? do
    let revenueBuckets ← Json.part "revenue_points" (Json.readList? Bucket.read?)
    let refundBuckets ← Json.part "refund_points" (Json.readList? Bucket.read?)
    let revenue ← Json.optionalPart "revenue" Summary.read?
    let refund ← Json.optionalPart "refund" Summary.read?
    return { revenueBuckets, refundBuckets, revenue, refund }

/-- The document of figures. -/
def write (figures : RevenueFigures) : Json :=
  .object
    [("revenue_points", Json.writeList Bucket.write figures.revenueBuckets),
      ("refund_points", Json.writeList Bucket.write figures.refundBuckets),
      ("revenue", Json.writeOption Summary.write figures.revenue),
      ("refund", Json.writeOption Summary.write figures.refund)]

end RevenueFigures

/-- What a completed order brings its merchant, and the commission in it. -/
structure Settlement where
  gross : Amount
  commission : Amount
  deriving DecidableEq

/-- A merchant's summaries by group. -/
abbrev AccountingFigures : Type := Dict String (List Summary)

namespace AccountingFigures

/-- Adds a summary to a group. -/
def add (figures : AccountingFigures) (group : String) (summary : Summary) : AccountingFigures :=
  figures.alter group fun summaries => summaries.getD [] ++ [summary]

/-- Adds the summary of amounts to a group, if there are any. -/
def addAmounts (figures : AccountingFigures) (group : String) (amounts : List Amount) :
    Except Overflow AccountingFigures := do
  match ← Summary.ofAmounts? amounts with
  | some summary => return figures.add group summary
  | none => return figures

/-- The figures of completed orders and refunds. -/
def ofEntries (orders : List Settlement) (refunds : List Refund) :
    Except Overflow AccountingFigures := do
  let figures : AccountingFigures := ∅
  let figures ← figures.addAmounts "total_success" (orders.map (·.gross))
  let figures ← figures.addAmounts "success"
    (← orders.mapM fun order => order.gross.sub order.commission)
  let figures ← figures.addAmounts "commission" (orders.map (·.commission))
  let figures ← figures.addAmounts "refund"
    ((refunds.filter (!·.isChargeback)).map (·.amount))
  figures.addAmounts "chargeback" ((refunds.filter (·.isChargeback)).map (·.amount))

/-- The figures of a document. -/
def read? (json : Json) : Option AccountingFigures :=
  Json.readTextDict? (Json.readList? Summary.read?) json

/-- The document of figures. -/
def write (figures : AccountingFigures) : Json :=
  Json.writeTextDict (Json.writeList Summary.write) figures

end AccountingFigures

end Paydesk
