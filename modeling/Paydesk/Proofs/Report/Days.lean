/-
**Reports on whole days.**

A report on whole days ends with the last whole second of its last day. What happens later on that
day falls on its date and still does not count: it shows in a report that goes on to the next day,
and in none that stops before it. But for such money the totals of adjacent days add up.

* `ReportRequest.contains_wholeDays_iff`: **the times of a report on whole days**;
* `ReportRequest.Overlooks`, `Order.OverlookedBy`, `Refund.OverlookedBy`: what such a report misses;
* `IsOneOf`, `filter_perm_of_isOneOf`: a list filtered by a condition that splits in three;
* `Adjacent.contains`: a time counts for the joined report as it counts for its parts;
* `netTotals`, `groupTotals`, `MemoryStore.exists_shows`: the totals of both reports, over the
  orders and refunds that count;
* `wholeDays_add_up`: **the totals of adjacent days** make up those of the joined report, with what
  is overlooked at the seam.
-/

import Paydesk.Proofs.Report.Payment
import Paydesk.Proofs.Time.Days

namespace Paydesk

open Amount (minorSum)

/-! ### Times -/

namespace ReportRequest

variable {merchantId : String} {least most next last time : Instant} {period : Period}

/-- **The times of a report on whole days**: those on its days that are not late on the last. -/
theorem contains_wholeDays_iff : (wholeDays merchantId least most period).contains time ↔
    (least.day ≤ time.day ∧ time.day ≤ most.day) ∧ ¬(time.day = most.day ∧ time.IsLate) := by
  unfold contains wholeDays
  rw [Bool.and_eq_true, Instant.dayStart_atMost_iff, Instant.atMost_dayEnd_iff, and_assoc]

/-- A request overlooks a time that lies on its last day, but after the last whole second. -/
def Overlooks (request : ReportRequest) (time : Instant) : Prop :=
  time.day = request.most.day ∧ time.IsLate

instance (request : ReportRequest) (time : Instant) : Decidable (request.Overlooks time) :=
  inferInstanceAs (Decidable (_ ∧ _))

theorem overlooks_wholeDays_iff : (wholeDays merchantId least most period).Overlooks time ↔
    time.day = most.day ∧ time.IsLate := by
  unfold Overlooks wholeDays
  rw [Instant.day_dayEnd]

end ReportRequest

/-- An order that would count for a report on whole days but is closed late on the last of them. -/
def Order.OverlookedBy (request : ReportRequest) (order : Order) : Prop :=
  order.status = .complete ∧ order.merchantId = request.merchantId
    ∧ ∃ time ∈ order.methodClosedAt, request.Overlooks time

/-- A refund that would count for a report on whole days but is given back late on the last. -/
def Refund.OverlookedBy (request : ReportRequest) (refund : Refund) : Prop :=
  refund.merchantId = request.merchantId ∧ request.Overlooks refund.createdAt

instance (request : ReportRequest) (order : Order) : Decidable (order.OverlookedBy request) :=
  inferInstanceAs (Decidable (_ ∧ _ ∧ ∃ time ∈ order.methodClosedAt, request.Overlooks time))

instance (request : ReportRequest) (refund : Refund) : Decidable (refund.OverlookedBy request) :=
  inferInstanceAs (Decidable (_ ∧ _))

/-! ### Parts -/

/-- Of three cases exactly one holds where some whole holds, and none elsewhere. -/
structure IsOneOf (whole one two three : Prop) : Prop where
  iff : whole ↔ one ∨ two ∨ three
  apart : one → ¬two
  apart_last : one ∨ two → ¬three

/-- What holds in exactly one of three cases does so under a further condition. -/
theorem IsOneOf.and {whole one two three : Prop} (parts : IsOneOf whole one two three)
    (condition : Prop) :
    IsOneOf (condition ∧ whole) (condition ∧ one) (condition ∧ two) (condition ∧ three) := by
  obtain ⟨iff, apart, apart_last⟩ := parts
  exact ⟨by tauto, by tauto, by tauto⟩

/-- **A list filtered by a whole** is its parts together. -/
theorem filter_perm_of_isOneOf {α : Type} {whole one two three : α → Prop} [DecidablePred whole]
    [DecidablePred one] [DecidablePred two] [DecidablePred three]
    (parts : ∀ item, IsOneOf (whole item) (one item) (two item) (three item)) (items : List α) :
    (items.filter (whole ·)).Perm
      (items.filter (one ·) ++ items.filter (two ·) ++ items.filter (three ·)) := by
  induction items with
  | nil => exact .refl _
  | cons item rest hypothesis =>
    obtain ⟨iff, apart, apart_last⟩ := parts item
    by_cases is_one : one item
    · have not_three := apart_last (Or.inl is_one)
      simp only [List.filter_cons, iff.mpr (Or.inl is_one), is_one, apart is_one, not_three,
        decide_true, decide_false, if_true, Bool.false_eq_true, if_false, List.cons_append]
      exact hypothesis.cons item
    by_cases is_two : two item
    · have not_three := apart_last (Or.inr is_two)
      simp only [List.filter_cons, iff.mpr (Or.inr (Or.inl is_two)), is_one, is_two, not_three,
        decide_true, decide_false, if_true, Bool.false_eq_true, if_false]
      rw [List.append_assoc] at hypothesis ⊢
      exact (hypothesis.cons item).trans List.perm_middle.symm
    by_cases is_three : three item
    · simp only [List.filter_cons, iff.mpr (Or.inr (Or.inr is_three)), is_one, is_two, is_three,
        decide_true, decide_false, if_true, Bool.false_eq_true, if_false]
      exact (hypothesis.cons item).trans List.perm_middle.symm
    · have not_whole : ¬whole item := by tauto
      simpa only [List.filter_cons, not_whole, is_one, is_two, is_three, decide_false,
        Bool.false_eq_true, if_false] using hypothesis

/-! ### Adjacent days -/

/-- Some days and the days right after them. -/
structure Adjacent (least most next last : Instant) : Prop where
  first : least.day ≤ most.day
  seam : next.day = most.day + 1
  second : next.day ≤ last.day

section Parts

variable {least most next last : Instant} (merchantId : String) (period : Period)

/-- **A time counts for the joined report** where it counts for one of its parts, or is overlooked
between them. -/
theorem Adjacent.contains (adjacent : Adjacent least most next last) (time : Instant) :
    IsOneOf ((ReportRequest.wholeDays merchantId least last period).contains time)
      ((ReportRequest.wholeDays merchantId least most period).contains time)
      ((ReportRequest.wholeDays merchantId next last period).contains time)
      ((ReportRequest.wholeDays merchantId least most period).Overlooks time) := by
  obtain ⟨first, seam, second⟩ := adjacent
  simp only [ReportRequest.contains_wholeDays_iff, ReportRequest.overlooks_wholeDays_iff]
  by_cases late : time.IsLate
  · simp only [late, and_true]
    exact ⟨by omega, by omega, by omega⟩
  · simp only [late, and_false, not_false_eq_true, and_true]
    exact ⟨by rw [or_false]; omega, by omega, fun _ => id⟩

theorem Adjacent.order (adjacent : Adjacent least most next last) (order : Order) :
    IsOneOf (order.CountsFor (.wholeDays merchantId least last period))
      (order.CountsFor (.wholeDays merchantId least most period))
      (order.CountsFor (.wholeDays merchantId next last period))
      (order.OverlookedBy (.wholeDays merchantId least most period)) := by
  refine .and (.and ?_ _) _
  cases order.methodClosedAt with
  | none => exact ⟨by simp, by simp, by simp⟩
  | some time => simpa using adjacent.contains merchantId period time

theorem Adjacent.refund (adjacent : Adjacent least most next last) (refund : Refund) :
    IsOneOf (refund.CountsFor (.wholeDays merchantId least last period))
      (refund.CountsFor (.wholeDays merchantId least most period))
      (refund.CountsFor (.wholeDays merchantId next last period))
      (refund.OverlookedBy (.wholeDays merchantId least most period)) :=
  (adjacent.contains merchantId period refund.createdAt).and _

end Parts

/-! ### Totals -/

/-- What orders bring and what is given back, in cents. -/
def netTotals (orders : List Order) (refunds : List Refund) : Int × Int :=
  (minorSum (orders.map (·.outMerchantCurrency)), minorSum (refunds.map (·.amount)))

/-- What orders bring with commissions and without, what is refunded, what is charged back, and the
commissions, in cents. -/
def groupTotals (orders : List Order) (refunds : List Refund) : Int × Int × Int × Int × Int :=
  let gross := minorSum (orders.map (·.outMerchantCurrency))
  let commissions := minorSum (orders.map (·.settlement.commission))
  (gross, gross - commissions, minorSum ((refunds.filter (!·.isChargeback)).map (·.amount)),
    minorSum ((refunds.filter (·.isChargeback)).map (·.amount)), commissions)

section Totals

variable {orders someOrders moreOrders lastOrders : List Order}
  {refunds someRefunds moreRefunds lastRefunds : List Refund}

theorem minorSum_parts {α : Type} {items one two three : List α}
    (parts : items.Perm (one ++ two ++ three)) (amount : α → Amount) :
    minorSum (items.map amount)
      = minorSum (one.map amount) + minorSum (two.map amount) + minorSum (three.map amount) := by
  rw [Amount.minorSum_perm (parts.map amount), List.map_append, List.map_append,
    Amount.minorSum_append, Amount.minorSum_append]

theorem netTotals_parts (order_parts : orders.Perm (someOrders ++ moreOrders ++ lastOrders))
    (refund_parts : refunds.Perm (someRefunds ++ moreRefunds ++ lastRefunds)) :
    netTotals orders refunds = netTotals someOrders someRefunds + netTotals moreOrders moreRefunds
      + netTotals lastOrders lastRefunds := by
  unfold netTotals
  rw [minorSum_parts order_parts, minorSum_parts refund_parts]
  rfl

theorem groupTotals_parts (order_parts : orders.Perm (someOrders ++ moreOrders ++ lastOrders))
    (refund_parts : refunds.Perm (someRefunds ++ moreRefunds ++ lastRefunds)) :
    groupTotals orders refunds = groupTotals someOrders someRefunds
      + groupTotals moreOrders moreRefunds + groupTotals lastOrders lastRefunds := by
  have kind (accept : Refund → Bool) : (refunds.filter accept).Perm
      (someRefunds.filter accept ++ moreRefunds.filter accept ++ lastRefunds.filter accept) := by
    rw [← List.filter_append, ← List.filter_append]
    exact refund_parts.filter accept
  unfold groupTotals
  simp only [minorSum_parts order_parts, minorSum_parts (kind _), Prod.mk_add_mk]
  congr 2
  ring

end Totals

/-! ### Reports -/

/-- The totals of a report on net revenue, in cents. -/
def NetRevenue.totals (net : NetRevenue) : Int × Int :=
  (net.revenue.total.minor, net.refund.total.minor)

/-- The totals of an accounting payment, in cents. -/
def AccountingPayment.totals (payment : AccountingPayment) : Int × Int × Int × Int × Int :=
  (payment.successWithCommissions.minor, payment.successWithoutCommissions.minor,
    payment.totalRefund.minor, payment.totalChargeback.minor, payment.totalCommission.minor)

namespace MemoryStore

variable (store : MemoryStore) (request : ReportRequest)

/-- A store's two reports on a request. -/
structure Shows (net : NetRevenue) (payment : AccountingPayment) : Prop where
  net : netRevenue store request = .ok net
  payment : accountingPayment store request = .ok payment

variable {store request}

/-- **Both reports have the totals** of what counts for them. -/
theorem exists_shows (small : store.StaysSmall request)
    (small_groups : store.GroupsStaySmall request) :
    ∃ net payment, store.Shows request net payment
      ∧ net.totals = netTotals (store.settled request) (store.refundsFor request)
      ∧ payment.totals = groupTotals (store.settled request) (store.refundsFor request) := by
  obtain ⟨net, reported, -, revenue, refund⟩ := exists_netRevenue small
  obtain ⟨payment, paid, describes⟩ := exists_accountingPayment small_groups
  refine ⟨net, payment, ⟨reported, paid⟩, ?_, ?_⟩
  · unfold NetRevenue.totals netTotals
    rw [revenue.total_eq, refund.total_eq, settled_eq, refundsFor_eq]
    rfl
  · unfold AccountingPayment.totals groupTotals
    rw [describes.with_commissions, describes.without_commissions, describes.refund,
      describes.chargeback, describes.commission, settled_eq, refundsFor_eq]
    rfl

end MemoryStore

/-- **Adjacent days add up, but for what is overlooked.** A report on whole days covers an instant
if and only if its date lies between theirs and it is not late on the last of them. The orders and
refunds of two adjacent ranges of days are therefore those of the joined range without what falls
late on the last day of the first; and while no partial sum leaves its bounds, so are the totals of
both reports. -/
theorem wholeDays_add_up (merchantId : String) (least most : Instant) (period : Period) :
    let first := ReportRequest.wholeDays merchantId least most period
    (∀ time, first.contains time ↔ (least.date.order time.date).isLE
      ∧ (time.date.order most.date).isLE ∧ ¬(time.date = most.date ∧ time.IsLate))
    ∧ ∀ next last, Adjacent least most next last →
      let second := ReportRequest.wholeDays merchantId next last period
      let joined := ReportRequest.wholeDays merchantId least last period
      ∀ store : MemoryStore,
        let lateOrders := store.orders.filter (·.OverlookedBy first)
        let lateRefunds := store.refunds.filter (·.OverlookedBy first)
        (store.settled joined).Perm (store.settled first ++ store.settled second ++ lateOrders)
        ∧ (store.refundsFor joined).Perm
          (store.refundsFor first ++ store.refundsFor second ++ lateRefunds)
        ∧ ((∀ request ∈ [first, second, joined],
            store.StaysSmall request ∧ store.GroupsStaySmall request) →
          ∃ net payment netFirst paymentFirst netSecond paymentSecond,
            store.Shows joined net payment ∧ store.Shows first netFirst paymentFirst
            ∧ store.Shows second netSecond paymentSecond
            ∧ net.totals = netFirst.totals + netSecond.totals + netTotals lateOrders lateRefunds
            ∧ payment.totals = paymentFirst.totals + paymentSecond.totals
              + groupTotals lateOrders lateRefunds) := by
  intro first
  constructor
  · intro time
    rw [ReportRequest.contains_wholeDays_iff, Instant.date_order, Instant.date_order,
      Int.isLE_compare, Int.isLE_compare, Instant.date_eq_iff, and_assoc]
  · intro next last adjacent second joined store lateOrders lateRefunds
    have orders : (store.settled joined).Perm
        (store.settled first ++ store.settled second ++ lateOrders) := by
      simp only [MemoryStore.settled_eq]
      exact filter_perm_of_isOneOf (adjacent.order merchantId period) store.orders
    have refunds : (store.refundsFor joined).Perm
        (store.refundsFor first ++ store.refundsFor second ++ lateRefunds) := by
      simp only [MemoryStore.refundsFor_eq]
      exact filter_perm_of_isOneOf (adjacent.refund merchantId period) store.refunds
    refine ⟨orders, refunds, fun small => ?_⟩
    simp only [List.forall_mem_cons, List.not_mem_nil, false_implies, implies_true, and_true] at small
    obtain ⟨⟨small_first, groups_first⟩, ⟨small_second, groups_second⟩, small_joined, groups_joined⟩ :=
      small
    obtain ⟨netFirst, paymentFirst, shows_first, net_first, payment_first⟩ :=
      MemoryStore.exists_shows small_first groups_first
    obtain ⟨netSecond, paymentSecond, shows_second, net_second, payment_second⟩ :=
      MemoryStore.exists_shows small_second groups_second
    obtain ⟨net, payment, shows, net_totals, payment_totals⟩ :=
      MemoryStore.exists_shows small_joined groups_joined
    refine ⟨net, payment, netFirst, paymentFirst, netSecond, paymentSecond, shows, shows_first,
      shows_second, ?_, ?_⟩
    · rw [net_totals, net_first, net_second]
      exact netTotals_parts orders refunds
    · rw [payment_totals, payment_first, payment_second]
      exact groupTotals_parts orders refunds

/-- Half a second before midnight falls on the date of that day, but no report on it covers that
instant. -/
theorem not_contains_wholeDays_lastHalfSecond :
    ∃ time : Instant, time.date = Instant.epoch.date ∧ ∀ merchantId period,
      ¬(ReportRequest.wholeDays merchantId .epoch .epoch period).contains time := by
  refine ⟨⟨86399, 500000000, by decide, by decide, by decide⟩, by decide, fun _ _ => ?_⟩
  rw [ReportRequest.contains_wholeDays_iff]
  decide

/-- Orders that were closed in the afternoon and half a second before midnight, and a refund on the
day after. -/
def aroundMidnight : MemoryStore :=
  let closed (time : Instant) (id : String) (amount : Amount) : Order :=
    { tenEuros with
      id, status := .complete, methodClosedAt := some time, outMerchantCurrency := amount }
  { orders := [closed (.ofSeconds 61200) "first" (.ofInt 7),
      closed ⟨86399, 500000000, by decide, by decide, by decide⟩ "late" (.ofInt 5)]
    refunds := [⟨"first", "merchant", .ofInt 3, false, .ofSeconds 93600⟩]
    distinct := by decide }

/-- Five euros of the first day count for both days together, and for neither alone. -/
theorem wholeDays_add_up_aroundMidnight :
    let first := ReportRequest.wholeDays "merchant" .epoch .epoch .day
    let second := ReportRequest.wholeDays "merchant" (.ofSeconds 86400) (.ofSeconds 86400) .day
    let joined := ReportRequest.wholeDays "merchant" .epoch (.ofSeconds 86400) .day
    ∃ net payment netFirst paymentFirst netSecond paymentSecond,
      aroundMidnight.Shows joined net payment
      ∧ aroundMidnight.Shows first netFirst paymentFirst
      ∧ aroundMidnight.Shows second netSecond paymentSecond
      ∧ net.totals = netFirst.totals + netSecond.totals + (500, 0) := by
  intro first second joined
  have small : ∀ request ∈ [first, second, joined],
      aroundMidnight.StaysSmall request ∧ aroundMidnight.GroupsStaySmall request := by
    intro request member
    refine ⟨MemoryStore.staysSmall_of_sizes _ (by decide +kernel) (by decide +kernel), ?_⟩
    simp only [List.mem_cons, List.not_mem_nil, or_false] at member
    rcases member with rfl | rfl | rfl <;>
      exact ⟨by decide +kernel, by decide +kernel, by decide +kernel, by decide +kernel⟩
  have adjacent : Adjacent .epoch .epoch (.ofSeconds 86400) (.ofSeconds 86400) :=
    ⟨by decide, by decide, by decide⟩
  obtain ⟨-, -, reports⟩ := (wholeDays_add_up "merchant" .epoch .epoch .day).2 _ _ adjacent
    aroundMidnight
  obtain ⟨net, payment, netFirst, paymentFirst, netSecond, paymentSecond, shows, shows_first,
    shows_second, totals, -⟩ := reports small
  refine ⟨net, payment, netFirst, paymentFirst, netSecond, paymentSecond, shows, shows_first,
    shows_second, ?_⟩
  rw [totals]
  have missed : netTotals (aroundMidnight.orders.filter (·.OverlookedBy first))
      (aroundMidnight.refunds.filter (·.OverlookedBy first)) = (500, 0) := by
    decide +kernel
  exact congrArg _ missed

end Paydesk
