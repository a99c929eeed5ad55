/-
**What flows find out before they write.**

Each flow makes up the order that it is going to store before it stores anything. Which order that
may be is said here once for every flow, together with the look-ups that it rests on:

* `OrderRequest.Drafts`, `draft_yields`, `draft_yields_new`: the order of a new request, and that
  its client id was new;
* `Order.Reprices`, `Order.Prepares`, `forPayment_yields`: the order that a payment is asked for;
* `Order.Books`, `booked_yields`: the order that a handler accepts;
* `Order.HandsBack`, `handedBack_yields`: the order that a handler does not accept.
-/

import Paydesk.Flow.CreatePayment
import Paydesk.Flow.NewOrder
import Paydesk.Flow.Notify
import Paydesk.Proofs.Flow.Lookup

namespace Paydesk

open Paydesk.Flow

variable {manner : Manner} {settings : Settings}

/-! ### New orders -/

namespace OrderRequest

variable {request : OrderRequest}

/-- The method of an intake was found usable, and the amount within its limits. -/
def Passes (manner : Manner) (request : OrderRequest) (intake : Intake) : Prop :=
  ∀ chosen ∈ intake.method,
    (∃ id, (usableMethod id).Finds manner (chosen.method, chosen.system)) ∧
      (chosen.method.withinLimits intake.currency.code request.amount).Finds manner chosen.outcome

/-- The order of an intake is without fees if it has no method, and priced otherwise. -/
inductive Drafts (manner : Manner) (settings : Settings) (request : OrderRequest) : Order → Prop
    where
  | unpriced {intake : Intake} {id : String} {now : Instant} {inMerchant outcome : Amount}
      (without : intake.method = none) :
      Drafts manner settings request (intake.build request id now inMerchant outcome)
  | priced {intake : Intake} {id : String} {now : Instant} {inMerchant outcome : Amount}
      {chosen : ChosenMethod} {allocation : Allocation} (passes : request.Passes manner intake)
      (method : intake.method = some chosen)
      (fees : ((intake.build request id now inMerchant outcome).allocate settings).Finds manner
        allocation) :
      Drafts manner settings request
        (allocation.apply (intake.build request id now inMerchant outcome))

/-- The order of a new request is new. -/
theorem Drafts.isNew {order : Order} (drafts : request.Drafts manner settings order) :
    order.status = .new ∧ order.version = 0 := by
  cases drafts with
  | unpriced => exact ⟨rfl, rfl⟩
  | priced => exact ⟨rfl, rfl⟩

theorem findProject_yields : request.findProject.Yields manner fun _ => True := by
  refine .bind (consults_project _).yields fun found _ => ?_
  refine .bind (consults_orRefuse found).yields fun project _ => ?_
  exact .bind (consults_require _ _).yields fun _ _ => .done trivial

theorem findMethod_yields (project : Project) :
    (request.findMethod project).Yields manner fun usable =>
      ∀ pair ∈ usable, ∃ id, (usableMethod id).Finds manner pair := by
  unfold findMethod
  split
  · exact .done (by simp)
  · refine .bind (consults_orRefuse _).yields fun mapping _ => ?_
    refine .bind (consults_usableMethod mapping.id).yields fun pair found => .done ?_
    intro other isPair
    obtain rfl := Option.mem_some.mp isPair
    exact ⟨mapping.id, found⟩

theorem requireLimits_yields (project : Project) (currency : String) (amount : Amount) :
    (project.requireLimits currency amount).Yields manner fun _ => True := by
  refine .bind (consults_convert _ _ _).yields fun limited _ => ?_
  exact (consults_refuseIf _).yields.mono fun _ _ => trivial

theorem chooseMethod_yields (currency : String) (usable : Option (PaymentMethod × PaymentSystem)) :
    (request.chooseMethod currency usable).Yields manner fun method =>
      ∀ chosen ∈ method, (chosen.method, chosen.system) ∈ usable ∧
        (chosen.method.withinLimits currency request.amount).Finds manner chosen.outcome := by
  rcases usable with - | ⟨method, system⟩
  · exact .done (by simp)
  · refine .bind (method.consults_withinLimits _ _).yields fun outcome found => .done ?_
    intro chosen isChosen
    obtain rfl := Option.mem_some.mp isChosen
    exact ⟨rfl, found⟩

/-- No order of a project had the merchant's own id of an order when the store was asked. -/
def IsNewTo (manner : Manner) (request : OrderRequest) (project : Project) : Prop :=
  ∀ clientId ∈ request.clientId?, manner (.fetchByClientId project.id clientId) (.ok none)

theorem requireNewClientId_yields (project : Project) :
    (request.requireNewClientId project).Yields manner fun _ =>
      request.IsNewTo manner project := by
  unfold requireNewClientId
  split
  · rename_i unnamed
    exact .done (by simp [IsNewTo, unnamed])
  · rename_i clientId named
    refine .ask rfl fun found told => ?_
    rcases found with error | - | known
    · exact .stop _
    · refine .done fun other isNamed => ?_
      obtain rfl : clientId = other := Option.some.inj (named.symm.trans isNamed)
      exact told
    · exact .stop _

theorem findPlace_yields : request.findPlace.Yields manner fun _ => True := by
  unfold findPlace
  split
  · exact .done trivial
  · refine .ask rfl fun located _ => ?_
    rcases located with error | place
    · exact .stop _
    · exact .done trivial

theorem findPackage_yields (project : Project) (place : Location) (currency : String) :
    (request.findPackage project place currency).Yields manner fun _ => True := by
  unfold findPackage
  split
  · exact .bind (consults_orRefused _).yields fun package _ => .done trivial
  · exact .done trivial

/-- **All rules.** The method of what they find was found usable and within its limits, and the
merchant's own id was new to the project. -/
theorem check_yields : (request.check settings).Yields manner fun intake =>
    request.Passes manner intake ∧ request.IsNewTo manner intake.project := by
  refine .bind (consults_refuseIf _).yields fun _ _ => ?_
  refine .bind findProject_yields fun project _ => ?_
  refine .bind (consults_currency _).yields fun found _ => ?_
  refine .bind (consults_orRefuse found).yields fun currency _ => ?_
  refine .bind (consults_require _ _).yields fun _ _ => ?_
  refine .bind (findMethod_yields project) fun usable usableFound => ?_
  refine .bind (requireLimits_yields _ _ _) fun _ _ => ?_
  refine .bind (chooseMethod_yields _ usable) fun method methodFound => ?_
  refine .bind (requireNewClientId_yields project) fun _ isNew => ?_
  refine .bind (consults_require _ _).yields fun _ _ => ?_
  refine .bind (consults_require _ _).yields fun _ _ => ?_
  refine .bind findPlace_yields fun place _ => ?_
  refine .bind (findPackage_yields _ _ _) fun package _ => ?_
  refine .bind (consults_orRefused _).yields fun params _ => .done ⟨?_, isNew⟩
  intro chosen isMethod
  obtain ⟨isUsable, within⟩ := methodFound chosen isMethod
  exact ⟨usableFound _ isUsable, within⟩

/-- **The order of a new request**, before it is stored; its client id, if it has one, was new to
its project. -/
theorem draft_yields_new : (request.draft settings).Yields manner fun order =>
    request.Drafts manner settings order ∧
      ∀ clientId ∈ order.projectOrderId,
        manner (.fetchByClientId order.project.id clientId) (.ok none) := by
  refine .bind check_yields ?_
  rintro intake ⟨passes, isNew⟩
  refine .bind (consults_convert _ _ _).yields fun inMerchant _ => ?_
  refine .bind (consults_convert _ _ _).yields fun outcome _ => ?_
  refine .ask rfl fun id _ => ?_
  refine .ask rfl fun now _ => ?_
  change Yields _ _ (if intake.method.isSome then _ else _)
  split
  · rename_i isSome
    obtain ⟨chosen, method⟩ := Option.isSome_iff_exists.mp isSome
    exact .bind (Order.consults_allocate _).yields fun allocation fees =>
      .done ⟨.priced passes method fees, isNew⟩
  · rename_i notSome
    exact .done ⟨.unpriced (Option.not_isSome_iff_eq_none.mp notSome), isNew⟩

/-- The order of a new request, before it is stored. -/
theorem draft_yields : (request.draft settings).Yields manner (request.Drafts manner settings) :=
  draft_yields_new.mono fun _ drafted => drafted.1

end OrderRequest

/-! ### Payments -/

namespace Order

/-- An order with a method of an id: the order as it is if it was priced with that method, and
otherwise priced anew. -/
inductive Reprices (manner : Manner) (settings : Settings) (base : Order) (id : String) :
    Order → Prop where
  | kept {method : PaymentMethod} {system : PaymentSystem}
      (usable : (usableMethod id).Finds manner (method, system))
      (same : base.hasMethod method.id) : Reprices manner settings base id base
  | switched {method : PaymentMethod} {system : PaymentSystem} {outcome : Amount}
      {allocation : Allocation} (usable : (usableMethod id).Finds manner (method, system))
      (within : (method.withinLimits base.projectIncomeCurrency base.projectIncome).Finds manner
        outcome)
      (fees : ((base.switchTo ⟨method, system, outcome⟩).allocate settings).Finds manner
        allocation) :
      Reprices manner settings base id (allocation.apply (base.switchTo ⟨method, system, outcome⟩))

/-- An order that a payment is asked for. -/
def Prepares (manner : Manner) (settings : Settings) (base : Order) (request : PaymentRequest)
    (order : Order) : Prop :=
  ∃ priced email amounts, base.Reprices manner settings request.methodId priced ∧
    order = AccountingAmounts.apply amounts (priced.withPayer request email)

/-- **The order that a payment is asked for**, before the handler hears of it. -/
theorem forPayment_yields (base : Order) (request : PaymentRequest) :
    (base.forPayment settings request).Yields manner (base.Prepares manner settings request) := by
  refine .bind (consults_usableMethod _).yields ?_
  rintro ⟨method, system⟩ usable
  have repriced : (base.withMethod settings method system).Yields manner
      (base.Reprices manner settings request.methodId) := by
    unfold withMethod
    split
    · rename_i same
      exact .done (.kept usable same)
    · refine .bind (method.consults_withinLimits _ _).yields fun outcome within => ?_
      exact .bind (consults_allocate _).yields fun allocation fees =>
        .done (.switched usable within fees)
  refine .bind repriced fun priced isPriced => ?_
  refine .bind (consults_orRefuse _).yields fun email _ => ?_
  refine .bind (consults_accounting _).yields fun amounts _ => ?_
  exact .done ⟨priced, email, amounts, isPriced, rfl⟩

/-! ### Notifications -/

/-- An order that a handler accepts: its own version is no matter, and what it is worth comes from
what the payment system received. -/
inductive Books (manner : Manner) (settings : Settings) (stored : Order)
    (response : PaymentResponse) : Order → Prop where
  | booked {returned : Order} {amounts : SettlementAmounts} {now : Instant}
      (handed : response.order = some returned) (allowed : stored.checkReturned returned = .ok ())
      (worth : ((returned.atVersionOf stored).settlementAmounts settings).Finds manner amounts) :
      Books manner settings stored response
        ((amounts.apply (returned.atVersionOf stored)).changedAt now)

/-- An order that a handler does not accept. -/
inductive HandsBack (stored : Order) (response : PaymentResponse) : Order → Prop where
  | returned {returned : Order} {now : Instant} (handed : response.order = some returned)
      (allowed : stored.checkReturned returned = .ok ()) :
      HandsBack stored response ((returned.atVersionOf stored).changedAt now)
  | same {now : Instant} (nothing : response.order = none) :
      HandsBack stored response (stored.changedAt now)

theorem acceptReturned_yields (stored returned : Order) :
    (stored.acceptReturned returned).Yields manner fun order =>
      stored.checkReturned returned = .ok () ∧
        order = returned.atVersionOf stored := by
  unfold acceptReturned
  cases stored.checkReturned returned with
  | error failure => exact .stop _
  | ok checked => exact .done ⟨rfl, rfl⟩

theorem consults_requireIncomeCurrency (order : Order) :
    order.requireIncomeCurrency.Consults := by
  refine .bind (consults_currency _) fun found => ?_
  rcases found with - | currency
  · exact .stop _
  · exact .done _

/-- **The order that a handler accepts**, before it is published. -/
theorem booked_yields (stored : Order) (response : PaymentResponse) :
    (stored.booked settings response).Yields manner (stored.Books manner settings response) := by
  unfold booked
  cases handed : response.order with
  | none => exact .stop _
  | some returned =>
    change Yields _ _ (stored.acceptReturned returned >>= _)
    refine .bind (acceptReturned_yields stored returned) ?_
    rintro order ⟨allowed, rfl⟩
    refine .bind (consults_requireIncomeCurrency _).yields fun _ _ => ?_
    refine .bind (consults_settlementAmounts _).yields fun amounts worth => ?_
    exact .ask rfl fun now _ => .done (.booked handed allowed worth)

/-- **The order that a handler does not accept**, before it is stored. -/
theorem handedBack_yields (stored : Order) (response : PaymentResponse) :
    (stored.handedBack response).Yields manner (stored.HandsBack response) := by
  unfold handedBack
  cases handed : response.order with
  | none => exact .ask rfl fun now _ => .done (.same handed)
  | some returned =>
    refine .bind (acceptReturned_yields stored returned) ?_
    rintro order ⟨allowed, rfl⟩
    exact .ask rfl fun now _ => .done (.returned handed allowed)

end Order

end Paydesk
