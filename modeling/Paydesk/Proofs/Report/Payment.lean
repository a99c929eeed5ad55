/-
**The accounting payment, and how the two reports agree.**

The report on accounting sums up the same orders and refunds as the report on net revenue, but by
group: what orders bring with and without the commission in it, the commission, plain refunds and
chargebacks. A group of nothing is left out and reads as no money.

* `Totals.add`: what one group adds to the figures;
* `AccountingPayment.Describes`, `AccountingFigures.exists_ofEntries`: the five totals;
* `reports_reconcile`: **the two reports agree**, for every period.
-/

import Paydesk.Proofs.Report.Net

namespace Paydesk

open Amount (minorSum StaySmall)

/-! ### Groups -/

/-- Figures have the totals of some groups, each added once, and no other group. -/
structure AccountingFigures.Totals (figures : AccountingFigures)
    (groups : List (String × List Amount)) : Prop where
  total_eq : ∀ group ∈ groups, (figures.total group.1).minor = minorSum group.2
  others : ∀ name ∉ groups.map (·.1), figures.get? name = none

namespace AccountingFigures

theorem totals_empty : Totals ∅ [] := ⟨nofun, fun _ _ => rfl⟩

theorem total_congr {figures others : AccountingFigures} {name : String}
    (same : figures.get? name = others.get? name) : figures.total name = others.total name := by
  unfold total
  rw [same]

/-- **A new group gets the total of its amounts**, and the other groups keep theirs. -/
theorem Totals.add {figures : AccountingFigures} {groups : List (String × List Amount)}
    (totals : figures.Totals groups) (name : String) {amounts : List Amount}
    (fresh : name ∉ groups.map (·.1))
    (fits : Amount.SumsFit amounts) :
    ∃ after, figures.addAmounts name amounts = .ok after
      ∧ after.Totals ((name, amounts) :: groups) := by
  obtain ⟨total, summed, exact_total⟩ := Amount.sum_minor_of_fits fits
  have missing := totals.others name fresh
  have framed {after : AccountingFigures}
      (kept : ∀ other, other ≠ name → after.get? other = figures.get? other)
      (total_eq : (after.total name).minor = minorSum amounts) :
      after.Totals ((name, amounts) :: groups) := by
    refine ⟨List.forall_mem_cons.mpr ⟨total_eq, fun group member => ?_⟩, fun other apart => ?_⟩
    · have apart : group.1 ≠ name := fun same => fresh (same ▸ List.mem_map_of_mem member)
      rw [total_congr (kept _ apart)]
      exact totals.total_eq group member
    · rw [List.map_cons, List.mem_cons, not_or] at apart
      rw [kept _ apart.1]
      exact totals.others other apart.2
  unfold addAmounts
  rw [Summary.ofAmounts?_eq summed]
  by_cases empty : amounts = []
  · refine ⟨figures, by rw [if_pos empty]; rfl, framed (fun _ _ => rfl) ?_⟩
    unfold AccountingFigures.total
    rw [missing, empty]
    decide
  · refine ⟨_, by rw [if_neg empty]; rfl, framed (fun _ apart => Dict.get?_insert_of_ne _ apart _) ?_⟩
    unfold AccountingFigures.total
    rw [Dict.get?_insert_self, missing]
    exact exact_total

end AccountingFigures

/-! ### Without commission -/

/-- What is left of orders without their commission, together. -/
theorem minorSum_nets {orders : List Settlement} {nets : List Amount}
    (matched : List.Forall₂ (fun order net => net.minor = order.gross.minor - order.commission.minor)
      orders nets) :
    minorSum nets = minorSum (orders.map (·.gross)) - minorSum (orders.map (·.commission)) := by
  induction matched with
  | nil => rfl
  | cons same _ hypothesis =>
    rw [List.map_cons, List.map_cons, Amount.minorSum_cons, Amount.minorSum_cons,
      Amount.minorSum_cons, hypothesis, same]
    ring

/-- Every order can do without its commission, and the partial sums of what is left fit. -/
theorem exists_nets {orders : List Settlement} (gross : StaySmall (orders.map (·.gross)))
    (commission : StaySmall (orders.map (·.commission))) :
    ∃ nets, orders.mapM (fun order => order.gross.sub order.commission) = .ok nets
      ∧ minorSum nets = minorSum (orders.map (·.gross)) - minorSum (orders.map (·.commission))
      ∧ Amount.SumsFit nets := by
  have limit : 2 ^ 64 + 2 ^ 64 < Decimal.limit := by decide
  have each : ∀ order ∈ orders, ∃ net, order.gross.sub order.commission = .ok net
      ∧ net.minor = order.gross.minor - order.commission.minor := by
    intro order member
    have bound := gross.minor_lt (List.mem_map_of_mem member)
    have bound_commission := commission.minor_lt (List.mem_map_of_mem member)
    exact Amount.sub_minor (by omega)
  obtain ⟨nets, taken_off, matched⟩ := mapM_exists each
  refine ⟨nets, taken_off, minorSum_nets matched, fun taken isPrefix => ?_⟩
  have first_nets : taken = nets.take taken.length :=
    List.prefix_iff_eq_take.mp ((List.mem_inits _ _).mp isPrefix)
  have part (amount : Settlement → Amount) : (orders.take taken.length).map amount
      ∈ (orders.map amount).inits := by
    rw [List.mem_inits, List.map_take]
    exact List.take_prefix _ _
  have bound := gross _ (part _)
  have bound_commission := commission _ (part _)
  rw [first_nets, minorSum_nets (List.forall₂_take taken.length matched)]
  omega

/-! ### The payment -/

/-- A payment has the totals of its groups, in cents. -/
structure AccountingPayment.Describes (payment : AccountingPayment)
    (gross commissions refunds chargebacks : List Amount) : Prop where
  with_commissions : payment.successWithCommissions.minor = minorSum gross
  without_commissions :
    payment.successWithoutCommissions.minor = minorSum gross - minorSum commissions
  commission : payment.totalCommission.minor = minorSum commissions
  refund : payment.totalRefund.minor = minorSum refunds
  chargeback : payment.totalChargeback.minor = minorSum chargebacks

/-- **The payment has the totals of its groups while their partial sums stay small.** -/
theorem AccountingFigures.exists_ofEntries (orders : List Settlement) (refunds : List Refund)
    (gross : StaySmall (orders.map (·.gross))) (commissions : StaySmall (orders.map (·.commission)))
    (plain : StaySmall ((refunds.filter (!·.isChargeback)).map (·.amount)))
    (chargebacks : StaySmall ((refunds.filter (·.isChargeback)).map (·.amount))) :
    ∃ figures, ofEntries orders refunds = .ok figures
      ∧ figures.payment.Describes (orders.map (·.gross)) (orders.map (·.commission))
        ((refunds.filter (!·.isChargeback)).map (·.amount))
        ((refunds.filter (·.isChargeback)).map (·.amount)) := by
  obtain ⟨nets, taken_off, minor_nets, fits_nets⟩ := exists_nets gross commissions
  obtain ⟨one, added_gross, totals⟩ := totals_empty.add "total_success" (by decide) gross.fits
  obtain ⟨two, added_nets, totals⟩ := totals.add "success" (by simp) fits_nets
  obtain ⟨three, added_commissions, totals⟩ := totals.add "commission" (by simp) commissions.fits
  obtain ⟨four, added_plain, totals⟩ := totals.add "refund" (by simp) plain.fits
  obtain ⟨figures, added_chargebacks, totals⟩ := totals.add "chargeback" (by simp) chargebacks.fits
  have total_eq {name : String} {amounts : List Amount} := totals.total_eq (name, amounts)
  refine ⟨figures, ?_, total_eq (by simp), ?_, total_eq (by simp), total_eq (by simp),
    total_eq (by simp)⟩
  · unfold ofEntries
    simp only [added_gross, taken_off, added_nets, added_commissions, added_plain,
      added_chargebacks, bind, Except.bind]
  · rw [← minor_nets]
    exact total_eq (by simp)

/-! ### Both reports -/

namespace MemoryStore

variable (store : MemoryStore) (request : ReportRequest)

/-- The commissions in what the orders bring that count for a report. -/
def commissions : List Amount :=
  (store.orders.filter (·.CountsFor request)).map (·.settlement.commission)

/-- The refunds that count for a report, without the chargebacks. -/
def plainRefunds : List Amount :=
  ((store.refunds.filter (·.CountsFor request)).filter (!·.isChargeback)).map (·.amount)

/-- The chargebacks that count for a report. -/
def chargebacks : List Amount :=
  ((store.refunds.filter (·.CountsFor request)).filter (·.isChargeback)).map (·.amount)

/-- No partial sum of a group leaves its bounds. -/
structure GroupsStaySmall : Prop where
  revenue : StaySmall (store.revenue request)
  commissions : StaySmall (store.commissions request)
  plainRefunds : StaySmall (store.plainRefunds request)
  chargebacks : StaySmall (store.chargebacks request)

variable {store request}

/-- The report on accounting, of what the store selects. -/
theorem exists_accountingPayment (small : store.GroupsStaySmall request) :
    ∃ payment, accountingPayment store request = .ok payment
      ∧ payment.Describes (store.revenue request) (store.commissions request)
        (store.plainRefunds request) (store.chargebacks request) := by
  have gross : ((store.settled request).map Order.settlement).map (·.gross) = store.revenue request := by
    rw [settled_eq, List.map_map]
    rfl
  have commission : ((store.settled request).map Order.settlement).map (·.commission)
      = store.commissions request := by
    rw [settled_eq, List.map_map]
    rfl
  obtain ⟨figures, made, describes⟩ := AccountingFigures.exists_ofEntries
    ((store.settled request).map Order.settlement) (store.refundsFor request)
    (gross ▸ small.revenue) (commission ▸ small.commissions)
    (store.refundsFor_eq request ▸ small.plainRefunds)
    (store.refundsFor_eq request ▸ small.chargebacks)
  rw [gross, commission, refundsFor_eq] at describes
  have figures_eq : accountingFigures store request = .ok figures := by
    change (AccountingFigures.ofEntries _ _).mapError _ = _
    rw [made]
    rfl
  refine ⟨figures.payment, ?_, describes⟩
  unfold accountingPayment
  rw [figures_eq]
  rfl

/-- Plain refunds and chargebacks are all the refunds. -/
theorem minorSum_refunded : minorSum (store.plainRefunds request)
    + minorSum (store.chargebacks request) = minorSum (store.refunded request) := by
  have parts := (List.filter_append_perm (fun refund : Refund => !refund.isChargeback)
    (store.refunds.filter (·.CountsFor request))).map (·.amount)
  simp only [Bool.not_not, List.map_append] at parts
  rw [← Amount.minorSum_append]
  exact Amount.minorSum_perm parts

theorem filter_orders_eq_nil (rejected : ∀ order ∈ store.orders, ¬order.CountsFor request) :
    store.orders.filter (·.CountsFor request) = [] :=
  List.filter_eq_nil_iff.mpr fun order member => decide_eq_true_eq.mp.mt (rejected order member)

/-- A report sees no refunds of a kind where none count. -/
theorem filter_refunds_eq_nil {accept : Refund → Bool}
    (rejected : ∀ refund ∈ store.refunds, refund.CountsFor request → accept refund = false) :
    ((store.refunds.filter (·.CountsFor request)).filter accept).map (·.amount) = [] := by
  rw [List.map_eq_nil_iff, List.filter_eq_nil_iff]
  intro refund member
  rw [List.mem_filter, decide_eq_true_eq] at member
  rw [rejected refund member.1 member.2]
  exact Bool.false_ne_true

end MemoryStore

/-- **The two reports agree.** While no partial sum leaves its bounds there are both, and what
orders bring with commissions is the revenue, what they bring without and the commission make it up,
and refunds and chargebacks are what is given back. The totals and counts are those of any other
period, and nothing where there is nothing to sum up; and the reports may see the store in different
sequences. -/
theorem reports_reconcile {store other : MemoryStore} {request : ReportRequest}
    (same : store.orders.Perm other.orders) (same_refunds : store.refunds.Perm other.refunds)
    (small : store.StaysSmall request) (small_groups : other.GroupsStaySmall request) :
    ∃ net payment, netRevenue store request = .ok net
      ∧ accountingPayment other request = .ok payment
      ∧ payment.successWithCommissions.minor = net.revenue.total.minor
      ∧ payment.successWithoutCommissions.minor + payment.totalCommission.minor
        = payment.successWithCommissions.minor
      ∧ payment.totalRefund.minor + payment.totalChargeback.minor = net.refund.total.minor
      ∧ (∀ period, accountingPayment other { request with period } = .ok payment
        ∧ (store.StaysSmall { request with period } →
          ∃ again, netRevenue store { request with period } = .ok again
            ∧ again.revenue.inCents = net.revenue.inCents
            ∧ again.refund.inCents = net.refund.inCents))
      ∧ ((∀ order ∈ store.orders, ¬order.CountsFor request) → net.revenue.inCents = (0, 0, 0)
        ∧ payment.successWithCommissions.minor = 0 ∧ payment.successWithoutCommissions.minor = 0
        ∧ payment.totalCommission.minor = 0)
      ∧ ((∀ refund ∈ store.refunds, ¬refund.CountsFor request) → net.refund.inCents = (0, 0, 0))
      ∧ ((∀ refund ∈ store.refunds, refund.CountsFor request → refund.isChargeback) →
        payment.totalRefund.minor = 0)
      ∧ ((∀ refund ∈ store.refunds, refund.CountsFor request → ¬refund.isChargeback) →
        payment.totalChargeback.minor = 0) := by
  obtain ⟨net, reported, -, revenue, refund⟩ := MemoryStore.exists_netRevenue small
  obtain ⟨payment, paid, describes⟩ := MemoryStore.exists_accountingPayment small_groups
  have same_revenue : minorSum (other.revenue request) = minorSum (store.revenue request) :=
    Amount.minorSum_perm ((same.symm.filter _).map _)
  have same_refunded : minorSum (other.refunded request) = minorSum (store.refunded request) :=
    Amount.minorSum_perm ((same_refunds.symm.filter _).map _)
  refine ⟨net, payment, reported, paid, ?_, ?_, ?_, fun period => ⟨paid, fun small_period => ?_⟩,
    fun no_order => ?_, fun no_refund => ?_, fun only_chargebacks => ?_, fun no_chargeback => ?_⟩
  · rw [describes.with_commissions, revenue.total_eq, same_revenue]
  · rw [describes.without_commissions, describes.commission, describes.with_commissions,
      sub_add_cancel]
  · rw [describes.refund, describes.chargeback, MemoryStore.minorSum_refunded, refund.total_eq,
      same_refunded]
  · obtain ⟨again, reported_again, -, revenue_again, refund_again⟩ :=
      MemoryStore.exists_netRevenue small_period
    exact ⟨again, reported_again, revenue_again.inCents_eq revenue (.refl _),
      refund_again.inCents_eq refund (.refl _)⟩
  · have none_other : ∀ order ∈ other.orders, ¬order.CountsFor request :=
      fun order member => no_order order (same.mem_iff.mpr member)
    rw [MemoryStore.revenue, MemoryStore.filter_orders_eq_nil no_order] at revenue
    rw [describes.with_commissions, describes.without_commissions, describes.commission,
      MemoryStore.commissions, MemoryStore.revenue, MemoryStore.filter_orders_eq_nil none_other]
    exact ⟨revenue.inCents_eq_zero, rfl, rfl, rfl⟩
  · have none : store.refunded request = [] := by
      unfold MemoryStore.refunded
      rw [List.map_eq_nil_iff, List.filter_eq_nil_iff]
      exact fun order member => decide_eq_true_eq.mp.mt (no_refund order member)
    exact (none ▸ refund).inCents_eq_zero
  · rw [describes.refund, MemoryStore.plainRefunds, MemoryStore.filter_refunds_eq_nil]
    · rfl
    · intro refund member counts
      rw [only_chargebacks refund (same_refunds.mem_iff.mpr member) counts]
      rfl
  · rw [describes.chargeback, MemoryStore.chargebacks, MemoryStore.filter_refunds_eq_nil]
    · rfl
    · intro refund member counts
      exact Bool.eq_false_iff.mpr
        (no_chargeback refund (same_refunds.mem_iff.mpr member) counts)

/-- The store of two days, whose orders are listed the other way round for the payment. -/
theorem reports_reconcile_twoDays :
    let reversed : MemoryStore :=
      { twoDays with orders := twoDays.orders.reverse, distinct := by decide +kernel }
    ∃ net payment, netRevenue twoDays (threeDays .week) = .ok net
      ∧ accountingPayment reversed (threeDays .week) = .ok payment
      ∧ payment.successWithCommissions.minor = net.revenue.total.minor
      ∧ payment.successWithoutCommissions.minor + payment.totalCommission.minor
        = payment.successWithCommissions.minor
      ∧ payment.totalRefund.minor + payment.totalChargeback.minor = net.refund.total.minor := by
  intro reversed
  have same : twoDays.orders.Perm reversed.orders := (List.reverse_perm twoDays.orders).symm
  have small : twoDays.StaysSmall (threeDays .week) :=
    MemoryStore.staysSmall_of_sizes _ (by decide +kernel) (by decide +kernel)
  have small_groups : reversed.GroupsStaySmall (threeDays .week) :=
    ⟨by decide +kernel, by decide +kernel, by decide +kernel, by decide +kernel⟩
  obtain ⟨net, payment, reported, paid, gross, nets, refunds, -⟩ :=
    reports_reconcile same (.refl _) small small_groups
  exact ⟨net, payment, reported, paid, gross, nets, refunds⟩

end Paydesk
