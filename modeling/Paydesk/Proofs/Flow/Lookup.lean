/-
**Flows that only look things up.**

A flow consults when all it does is ask the desk's tables, one look-up after another, and stop at
the first that fails. Pricing and the rules on limits and methods are of this kind.

* `Flow.Consults`, `Consults.bind`: such flows, and two of them in sequence;
* `Consults.yields`, `Consults.isLookup`: they only inquire until they have a value or stop, and
  hear nothing but look-ups;
* `goes_asked`, `goes_convert` and its kin: all that is heard on the way to the value of a single
  call;
* `consults_allocate`, `consults_accounting`, `consults_settlementAmounts`: pricing consults.
-/

import Paydesk.Flow.Intake
import Paydesk.Proofs.Flow.Course

namespace Paydesk

namespace Call

/-- Whether an answer is not an error. -/
def succeeds : (question : Call) → question.Answer → Bool
  | project _, said => said.isOk
  | method _, said => said.isOk
  | currency _, said => said.isOk
  | convert _ _ _, said => said.isOk
  | commission _ _ _, said => said.isOk
  | vat _ _ _, said => said.isOk
  | locate _, said => said.isOk
  | createPayment _ _ _, said => said.isOk
  | readNotification _ _ _, said => said.isOk
  | fetch _, said => said.isOk
  | fetchByClientId _ _, said => said.isOk
  | insert _, said => said.isOk
  | update _, said => said.isOk
  | publish _, said => said.isOk
  | announceCreated _, _ | announceFinalized _, _ | clock, _ | newId, _ => true

end Call

namespace Flow

variable {α β : Type}

/-- **A flow that consults.** It looks things up and stops at the first failure. -/
inductive Consults : Flow α → Prop where
  | done (value : α) : Consults (.done value)
  | stop (reason : Stop) : Consults (.stop reason)
  | look {question : Call} {next : question.Answer → Flow α} (lookup : question.isLookup)
      (strict : ∀ answer, question.succeeds answer = false → ∃ reason, next answer = .stop reason)
      (further : ∀ answer, Consults (next answer)) : Consults (.call question next)

/-- Two consulting flows in sequence consult. -/
theorem Consults.bind {flow : Flow α} {next : α → Flow β} (first : flow.Consults)
    (second : ∀ value, (next value).Consults) : (flow >>= next).Consults := by
  induction first with
  | done value => exact second value
  | stop reason => exact .stop reason
  | look lookup strict _ ih =>
    refine .look lookup (fun answer failed => ?_) ih
    obtain ⟨reason, stops⟩ := strict answer failed
    exact ⟨reason, by rw [stops]; rfl⟩

/-- What a flow finds while the parties answer in a manner. -/
def Finds (manner : Manner) (flow : Flow α) (value : α) : Prop :=
  ∃ heard, flow.Goes heard (.done value) ∧
    ∀ exchange ∈ heard, manner exchange.question exchange.answer

/-- **A consulting flow** only inquires until it finds something. -/
theorem Consults.yields {manner : Manner} {flow : Flow α} (consults : flow.Consults) :
    flow.Yields manner (flow.Finds manner) := by
  induction consults with
  | done value => exact .done ⟨[], .here _, by simp⟩
  | stop reason => exact .stop reason
  | look lookup _ _ ih =>
    refine .ask (Call.isInquiry_of_isLookup lookup) fun answer allowed => ?_
    refine (ih answer).mono fun value found => ?_
    obtain ⟨heard, path, within⟩ := found
    exact ⟨_, .on path, List.forall_mem_cons.mpr ⟨allowed, within⟩⟩

/-- **A consulting flow** hears nothing but look-ups. -/
theorem Consults.isLookup {flow rest : Flow α} (consults : flow.Consults) {heard : List Exchange}
    (path : flow.Goes heard rest) : ∀ exchange ∈ heard, exchange.question.isLookup := by
  induction consults generalizing heard with
  | done value =>
    obtain ⟨rfl, -⟩ := goes_done.mp path
    simp
  | stop reason =>
    obtain ⟨rfl, -⟩ := goes_stop.mp path
    simp
  | look lookup _ _ ih =>
    rcases goes_call.mp path with ⟨rfl, -⟩ | ⟨answer, later, rfl, onward⟩
    · simp
    · exact List.forall_mem_cons.mpr ⟨lookup, ih answer onward⟩

/-! ### Rules without a look-up -/

theorem consults_orRefuse {refusal : Refusal} (value? : Option α) :
    (orRefuse refusal value?).Consults := by
  rcases value? with - | value
  · exact .stop _
  · exact .done _

theorem consults_orRefused (result : Except Refusal α) : (orRefused result).Consults := by
  rcases result with refusal | value
  · exact .stop _
  · exact .done _

theorem consults_unlessOverflow (result : Except Overflow α) :
    (unlessOverflow result).Consults := by
  rcases result with overflow | value
  · exact .stop _
  · exact .done _

theorem consults_refuseIf (refusal? : Option Refusal) : (refuseIf refusal?).Consults := by
  rcases refusal? with - | refusal
  · exact .done _
  · exact .stop _

theorem consults_require (holds : Bool) (refusal : Refusal) : (require holds refusal).Consults := by
  unfold require
  split
  · exact .done _
  · exact .stop _

/-! ### Single look-ups -/

section Single

variable {ε : Type} {wrap : ε → Failure}

theorem consults_orFail (result : Except ε α) : (orFail wrap result).Consults := by
  rcases result with error | value
  · exact .stop _
  · exact .done _

theorem orFail_of_failed {result : Except ε α} (failed : result.isOk = false) :
    ∃ reason, orFail wrap result = .stop reason := by
  rcases result with error | value
  · exact ⟨_, rfl⟩
  · cases failed

end Single

theorem consults_project (id : String) : (Flow.project id).Consults :=
  .look rfl (fun _ failed => orFail_of_failed failed) consults_orFail

theorem consults_method (id : String) : (Flow.method id).Consults :=
  .look rfl (fun _ failed => orFail_of_failed failed) consults_orFail

theorem consults_currency (code : String) : (Flow.currency code).Consults :=
  .look rfl (fun _ failed => orFail_of_failed failed) consults_orFail

theorem consults_convert (base quote : String) (amount : Amount) :
    (Flow.convert base quote amount).Consults :=
  .look rfl (fun _ failed => orFail_of_failed failed) consults_orFail

theorem consults_commission (projectId methodId : String) (amount : Amount) :
    (Flow.commission projectId methodId amount).Consults :=
  .look rfl (fun _ failed => orFail_of_failed failed) consults_orFail

theorem consults_vat (country : String) (subdivision : Option String) (amount : Amount) :
    (Flow.vat country subdivision amount).Consults :=
  .look rfl (fun _ failed => orFail_of_failed failed) consults_orFail

theorem consults_usableMethod (id : String) : (usableMethod id).Consults := by
  refine .bind (consults_method id) fun found => ?_
  refine .bind (consults_orRefuse found) fun method => ?_
  exact .bind (consults_orRefused _) fun system => .done _

/-! ### All that is heard on the way to a value -/

section Heard

variable {heard : List Exchange}

/-- A call whose errors stop the flow has a value that it was answered with. -/
theorem goes_asked {ε : Type} (question : Call) (read : question.Answer → Except ε α)
    {wrap : ε → Failure} {value : α} :
    Goes (.call question fun answer => orFail wrap (read answer)) heard (.done value) ↔
      ∃ answer, heard = [⟨question, answer⟩] ∧ read answer = .ok value := by
  constructor
  · intro path
    rcases goes_call.mp path with ⟨-, same⟩ | ⟨answer, later, rfl, onward⟩
    · cases same
    cases said : read answer with
    | error error =>
      rw [said] at onward
      cases (goes_stop.mp onward).2
    | ok found =>
      rw [said] at onward
      obtain ⟨rfl, same⟩ := goes_done.mp onward
      cases same
      exact ⟨answer, rfl, said⟩
  · rintro ⟨answer, rfl, said⟩
    refine .on ?_
    rw [said]
    exact .here _

theorem goes_convert {base quote : String} {amount converted : Amount} :
    (convert base quote amount).Goes heard (.done converted) ↔
      heard = [⟨.convert base quote amount, .ok converted⟩] :=
  (goes_asked (.convert base quote amount) id).trans exists_eq_right

theorem goes_commission {projectId methodId : String} {amount : Amount} {shares : Commission} :
    (commission projectId methodId amount).Goes heard (.done shares) ↔
      heard = [⟨.commission projectId methodId amount, .ok shares⟩] :=
  (goes_asked (.commission projectId methodId amount) id).trans exists_eq_right

theorem goes_vat {country : String} {subdivision : Option String} {amount tax : Amount} :
    (vat country subdivision amount).Goes heard (.done tax) ↔
      heard = [⟨.vat country subdivision amount, .ok tax⟩] :=
  (goes_asked (.vat country subdivision amount) id).trans exists_eq_right

theorem goes_unlessOverflow {result : Except Overflow α} {value : α} :
    (unlessOverflow result).Goes heard (.done value) ↔ heard = [] ∧ result = .ok value := by
  rcases result with overflow | found
  · simp [unlessOverflow]
  · simp [unlessOverflow, eq_comm]

end Heard

end Flow

open Paydesk.Flow

/-! ### Pricing -/

theorem PaymentMethod.consults_withinLimits (method : PaymentMethod) (currency : String)
    (amount : Amount) : (method.withinLimits currency amount).Consults := by
  refine .bind (consults_convert _ _ _) fun outcome => ?_
  exact .bind (consults_refuseIf _) fun _ => .done _

namespace Order

variable {settings : Settings}

theorem consults_requireMethod (order : Order) : order.requireMethod.Consults := by
  unfold requireMethod
  split
  · exact .done _
  · exact .stop _

theorem goes_requireMethod {order : Order} {heard : List Exchange} {method : MethodSnapshot} :
    order.requireMethod.Goes heard (.done method) ↔ heard = [] ∧ order.method = some method := by
  unfold requireMethod
  cases order.method with
  | none => simp [fail]
  | some found => simp [eq_comm]

theorem consults_vatOn (order : Order) (amount : Amount) : (order.vatOn amount).Consults := by
  unfold vatOn
  split
  · exact consults_vat _ _ _
  · exact .done _

theorem consults_withTax (order : Order) (amount vat : Amount) :
    (order.withTax amount vat).Consults := by
  unfold withTax
  split
  · exact consults_unlessOverflow _
  · exact .done _

theorem consults_shift (merchant : Merchant) (currency : String) (commission : Commission)
    (total charged : Amount) : (shift merchant currency commission total charged).Consults := by
  unfold shift
  split
  · refine .bind (consults_unlessOverflow _) fun left => ?_
    refine .bind (consults_unlessOverflow _) fun charged => ?_
    exact .bind (consults_convert _ _ _) fun inMerchant => .done _
  · exact .done _

/-- **The fees of an order** come from look-ups alone. -/
theorem consults_allocate (order : Order) : (order.allocate settings).Consults := by
  refine .bind order.consults_requireMethod fun method => ?_
  refine .bind (order.consults_vatOn _) fun vat => ?_
  refine .bind (order.consults_withTax _ _) fun taxed => ?_
  refine .bind (consults_commission _ _ _) fun commission => ?_
  refine .bind (consults_unlessOverflow _) fun total => ?_
  refine .bind (consults_shift _ _ _ _ _) fun shifted => ?_
  refine .bind (consults_convert _ _ _) fun owedInMerchant => ?_
  refine .bind (consults_convert _ _ _) fun pspInMerchant => ?_
  refine .bind (consults_convert _ _ _) fun pspInPsp => ?_
  refine .bind (consults_convert _ _ _) fun systemInSystem => ?_
  exact .bind (consults_convert _ _ _) fun systemInMerchant => .done _

theorem consults_requirePspCurrency : (requirePspCurrency settings).Consults := by
  refine .bind (consults_currency _) fun found => ?_
  rcases found with - | currency
  · exact .stop _
  · exact .done _

theorem consults_accounting (order : Order) : (order.accounting settings).Consults := by
  refine .bind order.consults_requireMethod fun method => ?_
  refine .bind consults_requirePspCurrency fun _ => ?_
  refine .bind (consults_convert _ _ _) fun psp => ?_
  refine .bind (consults_convert _ _ _) fun merchant => ?_
  exact .bind (consults_convert _ _ _) fun system => .done _

theorem consults_settlementAmounts (order : Order) :
    (order.settlementAmounts settings).Consults := by
  refine .bind order.consults_requireMethod fun method => ?_
  refine .bind (consults_convert _ _ _) fun projectOutcome => ?_
  refine .bind consults_requirePspCurrency fun _ => ?_
  refine .bind (consults_convert _ _ _) fun psp => ?_
  refine .bind (consults_convert _ _ _) fun merchant => ?_
  exact .bind (consults_convert _ _ _) fun system => .done _

end Order

end Paydesk
