/-
**Net revenue of a merchant.**

The report on net revenue selects the orders and refunds of a merchant, sums them up by date and in
all, and takes the refunds of each date off its revenue. Every order and every refund that counts is
counted once, whatever else is in the store.

* `Order.CountsOn`, `Refund.CountsOn`: what counts for a report on a date;
* `MemoryStore.StaysSmall`: no partial sum of a report leaves its bounds;
* `MemoryStore.staysSmall_of_sizes`: so it is if all amounts together do not;
* `netRevenue_exact`: **the report shows exactly what counts**, however the store lists it.
-/

import Paydesk.Proofs.Report.Exact
import Paydesk.Proofs.Store.Refinement

namespace Paydesk

open Amount (minorSum StaySmall)

/-! ### What counts -/

/-- An order counts for a report if it is the merchant's, complete, and closed in the time. -/
def Order.CountsFor (request : ReportRequest) (order : Order) : Prop :=
  order.status = .complete ∧ order.merchantId = request.merchantId
    ∧ ∃ time ∈ order.methodClosedAt, request.contains time

/-- An order counts on the date on which it was closed. -/
def Order.CountsOn (request : ReportRequest) (date : PointDate) (order : Order) : Prop :=
  order.CountsFor request
    ∧ order.methodClosedAt.map (PointDate.ofInstant request.period) = some date

/-- A refund counts for a report if it is the merchant's, and given back in the time. -/
def Refund.CountsFor (request : ReportRequest) (refund : Refund) : Prop :=
  refund.merchantId = request.merchantId ∧ request.contains refund.createdAt

/-- A refund counts on the date on which it was given back. -/
def Refund.CountsOn (request : ReportRequest) (date : PointDate) (refund : Refund) : Prop :=
  refund.CountsFor request ∧ PointDate.ofInstant request.period refund.createdAt = date

section Decidable

variable (request : ReportRequest) (date : PointDate)

instance Order.decidableCountsFor (order : Order) : Decidable (order.CountsFor request) :=
  inferInstanceAs (Decidable (_ ∧ _ ∧ ∃ time ∈ order.methodClosedAt, request.contains time))

instance Order.decidableCountsOn (order : Order) : Decidable (order.CountsOn request date) :=
  inferInstanceAs (Decidable (_ ∧ _))

instance Refund.decidableCountsFor (refund : Refund) : Decidable (refund.CountsFor request) :=
  inferInstanceAs (Decidable (_ ∧ _))

instance Refund.decidableCountsOn (refund : Refund) : Decidable (refund.CountsOn request date) :=
  inferInstanceAs (Decidable (_ ∧ _))

end Decidable

namespace MemoryStore

variable (store : MemoryStore) (request : ReportRequest) (date : PointDate)

/-- What the orders bring that count for a report. -/
def revenue : List Amount :=
  (store.orders.filter (·.CountsFor request)).map (·.outMerchantCurrency)

/-- What the orders bring that count on a date. -/
def revenueOn : List Amount :=
  (store.orders.filter (·.CountsOn request date)).map (·.outMerchantCurrency)

/-- The refunds and chargebacks that count for a report. -/
def refunded : List Amount := (store.refunds.filter (·.CountsFor request)).map (·.amount)

/-- The refunds and chargebacks that count on a date. -/
def refundedOn : List Amount := (store.refunds.filter (·.CountsOn request date)).map (·.amount)

/-- The refunds and chargebacks of dates on which no order counts. -/
def refundedElsewhere : List Amount :=
  (store.refunds.filter fun refund => refund.CountsFor request ∧ ∀ order ∈ store.orders,
    ¬order.CountsOn request (PointDate.ofInstant request.period refund.createdAt)).map (·.amount)

/-- No partial sum of what counts leaves its bounds, in all and on each date. -/
structure StaysSmall : Prop where
  revenue : StaySmall (store.revenue request)
  refunded : StaySmall (store.refunded request)
  revenueOn (date : PointDate) : StaySmall (store.revenueOn request date)
  refundedOn (date : PointDate) : StaySmall (store.refundedOn request date)

variable {store} in
/-- No partial sum of a report leaves its bounds if all amounts in the store together do not. -/
theorem staysSmall_of_sizes
    (orders : (store.orders.map (·.outMerchantCurrency.minor.natAbs)).sum < 2 ^ 63)
    (refunds : (store.refunds.map (·.amount.minor.natAbs)).sum < 2 ^ 63) :
    store.StaysSmall request := by
  have revenue (accept : Order → Bool) :
      StaySmall ((store.orders.filter accept).map (·.outMerchantCurrency)) := by
    refine Amount.staySmall_of_sublist (List.filter_sublist.map _) ?_
    rw [List.map_map]
    exact orders
  have refunded (accept : Refund → Bool) :
      StaySmall ((store.refunds.filter accept).map (·.amount)) := by
    refine Amount.staySmall_of_sublist (List.filter_sublist.map _) ?_
    rw [List.map_map]
    exact refunds
  exact ⟨revenue _, refunded _, fun _ => revenue _, fun _ => refunded _⟩

/-! ### What the store selects -/

theorem settled_eq : store.settled request = store.orders.filter (·.CountsFor request) := by
  refine List.filter_congr fun order _ => ?_
  rw [Bool.eq_iff_iff, decide_eq_true_eq]
  unfold isSettledFor Order.CountsFor
  simp [Option.any_eq_true, and_assoc]

theorem refundsFor_eq : store.refundsFor request = store.refunds.filter (·.CountsFor request) := by
  refine List.filter_congr fun refund _ => ?_
  rw [Bool.eq_iff_iff, decide_eq_true_eq]
  unfold Refund.CountsFor
  simp

/-- The dated revenue of the orders that count. -/
def datedRevenue : List (PointDate × Amount) :=
  ((store.settled request).filterMap Order.revenueEntry?).map (Entry.dated request.period)

/-- The dated amounts of the refunds that count. -/
def datedRefunds : List (PointDate × Amount) :=
  ((store.refundsFor request).map Refund.entry).map (Entry.dated request.period)

theorem map_datedRevenue : (store.datedRevenue request).map (·.2) = store.revenue request := by
  unfold datedRevenue revenue
  rw [settled_eq]
  induction store.orders with
  | nil => rfl
  | cons order rest hypothesis =>
    by_cases counts : order.CountsFor request
    · obtain ⟨time, closed, _⟩ := counts.2.2
      simp only [List.filter_cons, counts, decide_true, if_true, List.filterMap_cons,
        Order.revenueEntry?, Option.mem_def.mp closed, Option.map_some, List.map_cons,
        ← hypothesis, Entry.dated]
    · simp only [List.filter_cons, counts, decide_false, Bool.false_eq_true, if_false, hypothesis]

theorem amountsOn_datedRevenue :
    amountsOn (store.datedRevenue request) date = store.revenueOn request date := by
  unfold amountsOn datedRevenue revenueOn Order.CountsOn
  rw [settled_eq]
  induction store.orders with
  | nil => rfl
  | cons order rest hypothesis =>
    by_cases counts : order.CountsFor request
    · obtain ⟨time, closed, _⟩ := counts.2.2
      simp only [List.filter_cons, counts, decide_true, if_true, List.filterMap_cons, true_and,
        Order.revenueEntry?, Option.mem_def.mp closed, Option.map_some, List.map_cons,
        Option.some.injEq, Entry.dated]
      by_cases same : PointDate.ofInstant request.period time = date
      · simp only [same, decide_true, if_true, List.map_cons]
        exact congrArg _ hypothesis
      · simp only [same, decide_false, Bool.false_eq_true, if_false]
        exact hypothesis
    · simp only [List.filter_cons, counts, false_and, decide_false, Bool.false_eq_true, if_false,
        hypothesis]

theorem map_datedRefunds : (store.datedRefunds request).map (·.2) = store.refunded request := by
  unfold datedRefunds refunded
  rw [refundsFor_eq, List.map_map, List.map_map]
  rfl

theorem amountsOn_datedRefunds :
    amountsOn (store.datedRefunds request) date = store.refundedOn request date := by
  unfold amountsOn datedRefunds refundedOn
  rw [refundsFor_eq, List.map_map, List.filter_map, List.map_map, List.filter_filter]
  refine congrArg _ (List.filter_congr fun refund _ => ?_)
  rw [Bool.eq_iff_iff, decide_eq_true_eq, Bool.and_eq_true, decide_eq_true_eq]
  exact and_comm.trans (and_congr_right fun _ => decide_eq_true_iff)

theorem refundedElsewhere_eq : store.refundedElsewhere request
    = ((store.datedRefunds request).filter
        fun entry => amountsOn (store.datedRevenue request) entry.1 = []).map (·.2) := by
  unfold refundedElsewhere datedRefunds
  rw [refundsFor_eq, List.map_map, List.filter_map, List.map_map, List.filter_filter]
  refine congrArg _ (List.filter_congr fun refund _ => ?_)
  have none_iff (date : PointDate) : amountsOn (store.datedRevenue request) date = []
      ↔ ∀ order ∈ store.orders, ¬order.CountsOn request date := by
    simp [amountsOn_datedRevenue, revenueOn]
  rw [Bool.eq_iff_iff, decide_eq_true_eq, Bool.and_eq_true, decide_eq_true_eq, and_comm]
  exact and_congr_left' ((none_iff _).symm.trans decide_eq_true_iff.symm)

/-- Where the partial sums stay small, they do so for dated amounts. -/
theorem StaysSmall.dates {store : MemoryStore} {request : ReportRequest}
    (small : store.StaysSmall request) :
    DatesStaySmall (store.datedRevenue request) ∧ DatesStaySmall (store.datedRefunds request) := by
  refine ⟨⟨?_, fun date => ?_⟩, ⟨?_, fun date => ?_⟩⟩
  · rw [map_datedRevenue]
    exact small.revenue
  · rw [amountsOn_datedRevenue]
    exact small.revenueOn date
  · rw [map_datedRefunds]
    exact small.refunded
  · rw [amountsOn_datedRefunds]
    exact small.refundedOn date

/-- The report on net revenue, of what the store selects. -/
theorem exists_netRevenue {store : MemoryStore} {request : ReportRequest}
    (small : store.StaysSmall request) :
    ∃ net, netRevenue store request = .ok net
      ∧ net.IsNetOf (store.datedRevenue request) (store.datedRefunds request)
      ∧ net.revenue.Describes (store.revenue request)
      ∧ net.refund.Describes (store.refunded request) := by
  obtain ⟨figures, net, made, netted, isNet⟩ :=
    RevenueFigures.exists_net small.dates.1 small.dates.2
  refine ⟨net, ?_, isNet, store.map_datedRevenue request ▸ isNet.revenue,
    store.map_datedRefunds request ▸ isNet.refund⟩
  have figures_eq : revenueFigures store request = .ok figures := by
    change (RevenueFigures.ofEntries _ _ _).mapError _ = _
    rw [made]
    rfl
  unfold netRevenue
  rw [figures_eq]
  change figures.net.mapError _ = _
  rw [netted]
  rfl

end MemoryStore

/-- **Net revenue, end to end.** While no partial sum leaves its bounds, there is a report. It has
one point for each date on which an order counts, in ascending order, with the revenue of the date
without its refunds; the points together are the revenue without the refunds, but for the refunds of
other dates; and a store that lists the same orders and refunds in another sequence reports the
same. -/
theorem netRevenue_exact {store : MemoryStore} {request : ReportRequest}
    (small : store.StaysSmall request) :
    ∃ net, netRevenue store request = .ok net
      ∧ (net.points.Pairwise fun first second => compare first.date second.date = .lt)
      ∧ (∀ date, (∃ point ∈ net.points, point.date = date)
        ↔ ∃ order ∈ store.orders, order.CountsOn request date)
      ∧ (∀ point ∈ net.points, point.amount.minor
        = minorSum (store.revenueOn request point.date)
          - minorSum (store.refundedOn request point.date))
      ∧ net.revenue.Describes (store.revenue request)
      ∧ net.refund.Describes (store.refunded request)
      ∧ (net.points.map (·.amount.minor)).sum
        = net.revenue.total.minor - net.refund.total.minor
          + minorSum (store.refundedElsewhere request)
      ∧ ∀ other : MemoryStore, store.orders.Perm other.orders → store.refunds.Perm other.refunds →
        other.StaysSmall request →
        ∃ again, netRevenue other request = .ok again ∧ again.inCents = net.inCents := by
  obtain ⟨net, reported, isNet, revenue, refund⟩ := MemoryStore.exists_netRevenue small
  have sum_points := isNet.sum_points
  rw [← MemoryStore.refundedElsewhere_eq] at sum_points
  refine ⟨net, reported, isNet.ascend, fun date => ?_, fun point member => ?_, revenue, refund,
    sum_points, ?_⟩
  · rw [isNet.dates, MemoryStore.amountsOn_datedRevenue]
    simp [MemoryStore.revenueOn]
  · rw [isNet.amounts point member, MemoryStore.amountsOn_datedRevenue,
      MemoryStore.amountsOn_datedRefunds]
  · intro other same same_refunds other_small
    obtain ⟨again, reported_again, isNet_again, -⟩ := MemoryStore.exists_netRevenue other_small
    refine ⟨again, reported_again, (isNet.inCents_eq isNet_again ?_ ?_).symm⟩
    · exact ((same.filter _).filterMap _).map _
    · exact ((same_refunds.filter _).map _).map _

/-- Two orders of two days. What is given back on the first day is less than what it brought, and on
the third day there is a chargeback only. -/
def twoDays : MemoryStore :=
  let closed (time : Instant) (id : String) (amount : Amount) : Order :=
    { tenEuros with
      id, status := .complete, methodClosedAt := some time, outMerchantCurrency := amount
      projectFee := some { amount := .ofInt 1, merchant := some (.ofMinor 95) } }
  { orders := [closed (.ofSeconds 90000) "second" (.ofMinor 505),
      closed (.ofSeconds 3600) "first" (.ofInt 9)]
    refunds := [⟨"first", "merchant", .ofInt 3, false, .ofSeconds 3600⟩,
      ⟨"second", "merchant", .ofMinor 250, true, .ofSeconds 176400⟩]
    distinct := by decide }

/-- What a report on the first three days is asked for. -/
def threeDays (period : Period) : ReportRequest :=
  .wholeDays "merchant" .epoch (.ofSeconds 172800) period

theorem netRevenue_exact_twoDays :
    ∃ net, netRevenue twoDays (threeDays .day) = .ok net ∧ net.revenue.count = 2
      ∧ (net.points.map (·.amount.minor)).sum = 1405 - 550 + 250 := by
  have small : twoDays.StaysSmall (threeDays .day) :=
    MemoryStore.staysSmall_of_sizes _ (by decide +kernel) (by decide +kernel)
  obtain ⟨net, reported, -, -, -, revenue, refund, together, -⟩ := netRevenue_exact small
  refine ⟨net, reported, revenue.count_eq.trans (by decide +kernel), ?_⟩
  rw [together, revenue.total_eq, refund.total_eq]
  decide +kernel

end Paydesk
