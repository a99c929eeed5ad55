/-
**The price of an order.**

An order with a payment method has the price of a fresh order for that method: its base is what the
merchant asked for in the method's currency, within the method's limits, and its tax, its fees and
what the payer is charged are what pricing makes of that base. Pricing overwrites the very amount
that it starts from, so it counts that no flow prices an order twice from what it charged before.

* `Order.FairlyPriced`: without a method and any fee, or priced as a fresh order;
* `Order.allocate_congr`, `FairlyPriced.congr`: what a price depends on;
* `fairlyPriced_of_drafts`, `Prepares.fairlyPriced`: **both ways to a price agree** — new orders are
  fairly priced, and payments keep fairly priced orders so.
-/

import Paydesk.Proofs.Desk.Tables
import Paydesk.Proofs.Flow.Finding

namespace Paydesk

open Paydesk.Flow

namespace Order

/-! ### Fair prices -/

/-- An order that costs an amount, not yet priced. -/
def atBase (order : Order) (base : Amount) : Order := { order with methodOutcome := base }

/-- An order without method, tax, charge or fee. -/
structure Unpriced (order : Order) : Prop where
  method : order.method = none
  vat : order.vat = .zero
  charged : order.methodOutcome = .zero
  projectFee : order.projectFee = none
  pspFee : order.pspFee = none
  systemFee : order.systemFee = none
  payerFee : order.payerFee = none

/-- **An order with the price of a fresh order** for a method of the catalog. -/
structure PricedBy (desk : Desk) (settings : Settings) (order : Order) (method : PaymentMethod)
    (system : PaymentSystem) (base : Amount) (allocation : Allocation) : Prop where
  inCatalog : desk.catalog.method? method.id = some method
  usable : method.usableSystem = .ok system
  snapshot : order.method = some (method.snapshot system)
  converted : desk.rates.convert order.projectIncomeCurrency method.currency order.projectIncome =
    .ok base
  atLeast : compare base method.least ≠ .lt
  atMost : compare base method.most ≠ .gt
  currency : order.methodOutcomeCurrency = some method.currency
  allocated : desk.evaluate ((order.atBase base).allocate settings) = .ok allocation
  vat : order.vat = allocation.vat
  charged : order.methodOutcome = allocation.charged
  projectFee : order.projectFee = some allocation.projectFee
  pspFee : order.pspFee = some allocation.pspFee
  systemFee : order.systemFee = some allocation.systemFee
  payerFee : order.payerFee = allocation.payerFee

/-- An order without any price, or with that of a fresh order. -/
inductive FairlyPriced (desk : Desk) (settings : Settings) (order : Order) : Prop where
  | unpriced (without : order.Unpriced)
  | priced {method : PaymentMethod} {system : PaymentSystem} {base : Amount}
      {allocation : Allocation} (price : order.PricedBy desk settings method system base allocation)

/-! ### What a price depends on -/

/-- The same order as far as its fees are concerned. -/
structure SameGoods (first second : Order) : Prop where
  id : first.id = second.id
  project : first.project = second.project
  country : first.payer.country = second.payer.country
  subdivision : first.payer.subdivision = second.payer.subdivision
  method : first.method = second.method

/-- The same order at the same price. -/
structure SamePrice (first second : Order) : Prop extends SameGoods first second where
  income : first.projectIncome = second.projectIncome
  incomeCurrency : first.projectIncomeCurrency = second.projectIncomeCurrency
  vat : first.vat = second.vat
  charged : first.methodOutcome = second.methodOutcome
  chargedCurrency : first.methodOutcomeCurrency = second.methodOutcomeCurrency
  projectFee : first.projectFee = second.projectFee
  pspFee : first.pspFee = second.pspFee
  systemFee : first.systemFee = second.systemFee
  payerFee : first.payerFee = second.payerFee

variable {desk : Desk} {settings : Settings} {first second : Order}

/-- **The fees of an order** depend on nothing but its goods and its amount. -/
theorem allocate_congr (same : first.SameGoods second)
    (sameAmount : first.methodOutcome = second.methodOutcome) :
    first.allocate settings = second.allocate settings := by
  unfold allocate requireMethod vatOn withTax
  rw [same.id, same.project, same.country, same.subdivision, same.method, sameAmount]

/-- Two orders at one price, of which one is fairly priced. -/
theorem FairlyPriced.congr (fair : first.FairlyPriced desk settings)
    (same : first.SamePrice second) : second.FairlyPriced desk settings := by
  cases fair with
  | unpriced without =>
    obtain ⟨method, vat, charged, projectFee, pspFee, systemFee, payerFee⟩ := without
    exact .unpriced ⟨same.method ▸ method, same.vat ▸ vat, same.charged ▸ charged,
      same.projectFee ▸ projectFee, same.pspFee ▸ pspFee, same.systemFee ▸ systemFee,
      same.payerFee ▸ payerFee⟩
  | @priced method system base allocation price =>
    have sameGoods : (first.atBase base).SameGoods (second.atBase base) :=
      ⟨same.id, same.project, same.country, same.subdivision, same.method⟩
    have price : second.PricedBy desk settings method system base allocation :=
      { inCatalog := price.inCatalog
        usable := price.usable
        snapshot := same.method ▸ price.snapshot
        converted := by rw [← same.income, ← same.incomeCurrency]; exact price.converted
        atLeast := price.atLeast
        atMost := price.atMost
        currency := same.chargedCurrency ▸ price.currency
        allocated := by rw [← allocate_congr sameGoods rfl]; exact price.allocated
        vat := same.vat ▸ price.vat
        charged := same.charged ▸ price.charged
        projectFee := same.projectFee ▸ price.projectFee
        pspFee := same.pspFee ▸ price.pspFee
        systemFee := same.systemFee ▸ price.systemFee
        payerFee := same.payerFee ▸ price.payerFee }
    exact .priced price

/-! ### Payment methods -/

/-- A method that was found usable is the catalog's method of its id. -/
theorem method_of_usable {id : String} {method : PaymentMethod} {system : PaymentSystem}
    (found : (usableMethod id).Finds desk.Says (method, system)) :
    desk.catalog.method? method.id = some method ∧ method.usableSystem = .ok system := by
  have value : desk.evaluate (do
      let method ← orRefuse .methodNotFound (desk.catalog.method? id)
      return (method, ← orRefused method.usableSystem)) = .ok (method, system) :=
    (consults_usableMethod id).evaluate_eq found
  cases inCatalog : desk.catalog.method? id with
  | none =>
    rw [inCatalog] at value
    cases value
  | some other =>
    rw [inCatalog] at value
    change desk.evaluate (orRefused other.usableSystem >>= fun system => .done (other, system)) = _
      at value
    cases usable : other.usableSystem with
    | error refusal =>
      rw [usable] at value
      cases value
    | ok found =>
      rw [usable] at value
      obtain ⟨rfl, rfl⟩ := Prod.mk.inj (Except.ok.inj value)
      rw [desk.catalog.methodsKeyed id other inCatalog]
      exact ⟨inCatalog, usable⟩

theorem within_of_outsideLimits? {least most amount : Amount} {below above : Refusal}
    (inside : outsideLimits? least most amount below above = none) :
    compare amount least ≠ .lt ∧ compare amount most ≠ .gt := by
  unfold outsideLimits? at inside
  split at inside
  · cases inside
  rename_i notBelow
  split at inside
  · cases inside
  rename_i notAbove
  exact ⟨by simpa using notBelow, by simpa using notAbove⟩

/-- An amount that was found within a method's limits is the converted one. -/
theorem limits_of_within {method : PaymentMethod} {currency : String} {amount outcome : Amount}
    (found : (method.withinLimits currency amount).Finds desk.Says outcome) :
    desk.rates.convert currency method.currency amount = .ok outcome ∧
      compare outcome method.least ≠ .lt ∧ compare outcome method.most ≠ .gt := by
  have value : desk.evaluate (do
      let outcome ← orFail .conversion (desk.rates.convert currency method.currency amount)
      refuseIf (outsideLimits? method.least method.most outcome .belowMethodLeast .aboveMethodMost)
      return outcome) = .ok outcome :=
    (method.consults_withinLimits currency amount).evaluate_eq found
  cases converted : desk.rates.convert currency method.currency amount with
  | error error =>
    rw [converted] at value
    cases value
  | ok base =>
    rw [converted] at value
    change desk.evaluate (refuseIf (outsideLimits? method.least method.most base .belowMethodLeast
      .aboveMethodMost) >>= fun _ => .done base) = _ at value
    cases outside : outsideLimits? method.least method.most base .belowMethodLeast
        .aboveMethodMost with
    | some refusal =>
      rw [outside] at value
      cases value
    | none =>
      rw [outside] at value
      obtain rfl := Except.ok.inj value
      exact ⟨rfl, within_of_outsideLimits? outside⟩

/-! ### Both ways to a price -/

theorem pricedBy_apply {order : Order} {method : PaymentMethod} {system : PaymentSystem}
    {base : Amount} {allocation : Allocation}
    (inCatalog : desk.catalog.method? method.id = some method)
    (usable : method.usableSystem = .ok system)
    (snapshot : order.method = some (method.snapshot system))
    (currency : order.methodOutcomeCurrency = some method.currency)
    (amount : order.methodOutcome = base)
    (limits : desk.rates.convert order.projectIncomeCurrency method.currency order.projectIncome =
      .ok base ∧ compare base method.least ≠ .lt ∧ compare base method.most ≠ .gt)
    (fees : (order.allocate settings).Finds desk.Says allocation) :
    (allocation.apply order).PricedBy desk settings method system base allocation :=
  have sameGoods : order.SameGoods ((allocation.apply order).atBase base) :=
    ⟨rfl, rfl, rfl, rfl, rfl⟩
  { inCatalog, usable, snapshot, currency
    converted := limits.1
    atLeast := limits.2.1
    atMost := limits.2.2
    allocated := by
      rw [← allocate_congr sameGoods amount]
      exact (consults_allocate order).evaluate_eq fees
    vat := rfl
    charged := rfl
    projectFee := rfl
    pspFee := rfl
    systemFee := rfl
    payerFee := rfl }

/-- **New orders** are fairly priced. -/
theorem fairlyPriced_of_drafts {request : OrderRequest} {order : Order}
    (drafts : request.Drafts desk.Says settings order) : order.FairlyPriced desk settings := by
  cases drafts with
  | @unpriced intake _ _ _ _ without =>
    refine .unpriced ⟨?_, rfl, ?_, rfl, rfl, rfl, rfl⟩
    · show intake.method.map _ = none
      rw [without]
      rfl
    · show (intake.method.map (·.outcome)).getD .zero = .zero
      rw [without]
      rfl
  | @priced intake _ _ _ _ chosen allocation passes method fees =>
    obtain ⟨⟨id, usable⟩, within⟩ := passes chosen method
    obtain ⟨inCatalog, isUsable⟩ := method_of_usable usable
    refine .priced (pricedBy_apply inCatalog isUsable ?_ ?_ ?_ (limits_of_within within) fees)
    · show intake.method.map _ = _
      rw [method]
      rfl
    · show intake.method.map _ = _
      rw [method]
      rfl
    · show (intake.method.map (·.outcome)).getD .zero = _
      rw [method]
      rfl

/-- **A payment** keeps an order fairly priced, whatever method it is paid with. -/
theorem Prepares.fairlyPriced {base order : Order} {request : PaymentRequest}
    (fair : base.FairlyPriced desk settings)
    (prepares : base.Prepares desk.Says settings request order) :
    order.FairlyPriced desk settings := by
  obtain ⟨priced, email, amounts, repriced, rfl⟩ := prepares
  have fairlyRepriced : priced.FairlyPriced desk settings := by
    cases repriced with
    | kept => exact fair
    | switched usable within fees =>
      obtain ⟨inCatalog, isUsable⟩ := method_of_usable usable
      exact .priced (pricedBy_apply inCatalog isUsable rfl rfl rfl
        (limits_of_within within) fees)
  refine fairlyRepriced.congr ?_
  exact ⟨⟨rfl, rfl, rfl, rfl, rfl⟩, rfl, rfl, rfl, rfl, rfl, rfl, rfl, rfl, rfl⟩

end Order

end Paydesk
