/-
**What a notification settles.**

A notification that the handler accepts books the order that the handler hands back, publishes it
and stores it. What is published is what is stored: the store only counts the version on, and no
event tells a version.

* `Job.Settles`, `Course.settles`: all that was heard when a notification was accepted and done
  with;
* `Order.Settled`: a stored order beside the one that was booked, and what the booked one is worth;
* `settled_of_notice`: **the order, the message and the answer** of an accepted notification.
-/

import Paydesk.Proofs.Flow.Failure
import Paydesk.Proofs.Office.Price

namespace Paydesk

open Paydesk.Flow

/-! ### Runs at a store -/

namespace MemoryStore

variable {store after : MemoryStore} {order stored : Order} {before later : List Exchange}

/-- **A run that writes once** replaces one order by its next version. -/
theorem Steps.of_update
    (steps : store.Steps (before ++ ⟨.update order, .ok stored⟩ :: later) after)
    (unwrittenBefore : ∀ exchange ∈ before, exchange.written? = none)
    (unwrittenLater : ∀ exchange ∈ later, exchange.written? = none) :
    ∃ base ∈ store.orders, base.id = order.id ∧ base.version = order.version ∧
      order.nextVersion = .ok stored ∧ after = store.replace stored := by
  obtain ⟨middle, first, onward⟩ := steps_append.mp steps
  rw [first.eq_of_unwritten unwrittenBefore] at onward
  obtain - | ⟨step, further⟩ := onward
  cases step with
  | kept unwritten => cases unwritten
  | @changed base _ _ member sameId sameVersion counted =>
    exact ⟨base, member, sameId, sameVersion, counted, further.eq_of_unwritten unwrittenLater⟩

/-- A store whose first answer is an order of an id has that order. -/
theorem Serves.fetch_of_head {id : String} {heard : List Exchange} (serves : store.Serves heard after)
    (head : heard.head? = some ⟨.fetch id, .ok (some order)⟩) : store.fetch id = some order := by
  cases serves with
  | here => cases head
  | @on _ _ _ _ said _ _ served =>
    cases head
    rcases said with error | found
    · cases congrArg Prod.fst served
    · exact Except.ok.inj (congrArg Prod.fst served)

/-- The order that took another's place is the one of its id. -/
theorem fetch_replace (member : ∃ base ∈ store.orders, base.id = stored.id) :
    (store.replace stored).fetch stored.id = some stored :=
  fetch_eq_some_iff.mpr ⟨mem_replace.mpr (Or.inr ⟨rfl, member⟩), rfl⟩

end MemoryStore

namespace Flow

variable {α β : Type} {manner : Manner}

/-! ### What flows in sequence find -/

theorem Finds.bind {flow : Flow α} {next : α → Flow β} {value : β}
    (found : (flow >>= next).Finds manner value) :
    ∃ first, flow.Finds manner first ∧ (next first).Finds manner value := by
  obtain ⟨heard, path, within⟩ := found
  obtain ⟨first, before, after, rfl, reached, second⟩ := goes_bind_done.mp path
  rw [List.forall_mem_append] at within
  exact ⟨first, ⟨before, reached, within.1⟩, after, second, within.2⟩

theorem finds_convert {base quote : String} {amount converted : Amount}
    (found : (convert base quote amount).Finds manner converted) :
    manner (.convert base quote amount) (.ok converted) := by
  obtain ⟨heard, path, within⟩ := found
  obtain rfl := goes_convert.mp path
  exact within _ (List.mem_singleton_self _)

end Flow

namespace Order

/-- **What an order is worth** by what the payment system received: that income in the currencies of
the project's outcome and of all books. -/
structure Worth (manner : Manner) (settings : Settings) (order : Order)
    (projectOutcome psp merchant system : Amount) : Prop where
  inProject : manner
    (.convert (order.methodIncomeCurrency.getD "") order.projectOutcomeCurrency order.methodIncome)
    (.ok projectOutcome)
  inPsp : manner
    (.convert (order.methodIncomeCurrency.getD "") settings.pspCurrency order.methodIncome)
    (.ok psp)
  inMerchant : manner
    (.convert (order.methodIncomeCurrency.getD "") order.project.merchant.accountingCurrency
      order.methodIncome) (.ok merchant)
  inSystem : ∃ method, order.method = some method ∧ manner
    (.convert (order.methodIncomeCurrency.getD "") method.system.accountingCurrency
      order.methodIncome) (.ok system)

theorem worth_of_finds {manner : Manner} {settings : Settings} {order : Order}
    {amounts : SettlementAmounts} (found : (order.settlementAmounts settings).Finds manner amounts) :
    order.Worth manner settings amounts.projectOutcome amounts.accounting.psp
      amounts.accounting.merchant amounts.accounting.system := by
  obtain ⟨method, hasMethod, found⟩ := found.bind
  obtain ⟨projectOutcome, inProject, found⟩ := found.bind
  obtain ⟨-, -, found⟩ := found.bind
  obtain ⟨psp, inPsp, found⟩ := found.bind
  obtain ⟨merchant, inMerchant, found⟩ := found.bind
  obtain ⟨system, inSystem, found⟩ := found.bind
  obtain ⟨heard, path, -⟩ := found
  cases (goes_done.mp path).2
  refine ⟨finds_convert inProject, finds_convert inPsp, finds_convert inMerchant, method, ?_,
    finds_convert inSystem⟩
  obtain ⟨asked, found, -⟩ := hasMethod
  exact (goes_requireMethod.mp found).2

end Order

namespace Exchange

/-- The message that is handed to the broker, whether the broker takes it or not. -/
def sent? : Exchange → Option Message
  | ⟨.publish message, _⟩ => some message
  | _ => none

end Exchange

theorem filterMap_sent?_of_isReading {heard : List Exchange}
    (asked : ∀ exchange ∈ heard, exchange.question.isReading) :
    heard.filterMap Exchange.sent? = [] := by
  refine List.filterMap_eq_nil_iff.mpr ?_
  rintro ⟨question, answer⟩ member
  have reading := asked _ member
  cases question with
  | publish => cases reading
  | _ => rfl

namespace Job

variable {manner : Manner} {settings : Settings} {notification : Notification}
  {provider : ProviderSettings} {heard : List Exchange} {response answer : PaymentResponse}
  {base order stored : Order}

/-! ### All that is heard -/

/-- What the hooks hear of a stored order. -/
def announcement (stored : Order) : List Exchange :=
  if stored.status.isFinal then [⟨.announceFinalized stored, ()⟩] else []

/-- **A settlement.** What was heard when an order was fetched, a handler accepted a notification of
it, the order was booked, published and stored, and the hooks were told. -/
inductive Settles (manner : Manner) (settings : Settings) (notification : Notification)
    (provider : ProviderSettings) (base : Order) (answer : PaymentResponse) (order stored : Order) :
    List Exchange → Prop where
  | settled {asked : List Exchange} (guarded : base.status.noticeGuard = .ok .proceed)
      (accepted : answer.verdict = .accepted)
      (reading : ∀ exchange ∈ (⟨.fetch notification.orderId, .ok (some base)⟩ : Exchange) ::
        ⟨.readNotification base provider notification, .ok answer⟩ :: asked,
          exchange.question.isReading)
      (booked : base.Books manner settings answer order) :
      Settles manner settings notification provider base answer order stored
        ((⟨.fetch notification.orderId, .ok (some base)⟩ ::
          ⟨.readNotification base provider notification, .ok answer⟩ :: asked ++
            [⟨.publish (.ofOrder settings.notifyTopic order), .ok ()⟩]) ++
          ⟨.update order, .ok stored⟩ :: announcement stored)

/-- **An accepted notification that is done with** was settled. -/
theorem Course.settles
    (course : (notify notification provider).Course manner settings heard
      (.done (.noticed (.handled response))))
    (accepted : response.verdict = .accepted) :
    ∃ base answer order stored, response = { answer with order := some stored } ∧
      Settles manner settings notification provider base answer order stored heard := by
  cases course with
  | reading _ reads => cases reads
  | closing closes way =>
    cases closes with
    | known => cases way
    | pending _ verdict =>
      cases way
      rw [accepted] at verdict
      cases verdict
    | refused _ verdict =>
      cases way
      rw [accepted] at verdict
      simp at verdict
    | @accepted _ _ asked base order answer guarded verdict inquiries booked =>
      have settles : ∀ stored, Settles manner settings notification provider base answer order
          stored _ :=
        fun stored => .settled guarded verdict (forall_isReading_of_heard inquiries) booked
      cases way with
      | @settledOpen _ _ stored _ stillOpen =>
        refine ⟨base, answer, order, stored, rfl, ?_⟩
        simpa [announcement, stillOpen] using settles stored
      | @settledFinally _ _ stored _ isFinal =>
        refine ⟨base, answer, order, stored, rfl, ?_⟩
        simpa [announcement, isFinal] using settles stored

section Settles

variable
  (settles : Settles manner settings notification provider base answer order stored heard)

include settles

theorem Settles.booked : base.Books manner settings answer order := by
  obtain ⟨-, -, -, booked⟩ := settles
  exact booked

/-- The order was open when the notification came. -/
theorem Settles.wasOpen : base.status.isFinal = false := by
  obtain ⟨guarded, -, -, -⟩ := settles
  exact Status.not_isFinal_of_proceed guarded

/-- A settlement begins with the order. -/
theorem Settles.head : heard.head? = some ⟨.fetch notification.orderId, .ok (some base)⟩ := by
  obtain ⟨-, -, -, -⟩ := settles
  rfl

/-- The handler read the notification. -/
theorem Settles.read :
    ⟨.readNotification base provider notification, .ok answer⟩ ∈ heard := by
  obtain ⟨-, -, -, -⟩ := settles
  simp

/-- **A settlement replaces** the order that was fetched by the next version of the booked one. -/
theorem Settles.update {store after : MemoryStore} (steps : store.Steps heard after) :
    base.id = stored.id ∧ order.nextVersion = .ok stored ∧ after.fetch stored.id = some stored := by
  obtain ⟨guarded, accepted, reading, booked⟩ := settles
  have idle := idle_of_isReading reading
  have quiet : ∀ exchange ∈ announcement stored, exchange.written? = none := by
    unfold announcement
    split
    · simp [Exchange.written?]
    · simp
  obtain ⟨replaced, member, sameId, -, counted, rfl⟩ := steps.of_update
    (List.forall_mem_append.mpr ⟨idle.unwritten, by simp [Exchange.written?]⟩) quiet
  have keepsId : stored.id = order.id := by rw [(Order.nextVersion_eq_ok counted).1]
  refine ⟨?_, counted, MemoryStore.fetch_replace ⟨replaced, member, sameId.trans keepsId.symm⟩⟩
  rw [keepsId, (booked.follows guarded).sameId]

/-- **A settlement hands one message to the broker.** -/
theorem Settles.sent :
    heard.filterMap Exchange.sent? = [.ofOrder settings.notifyTopic order] := by
  obtain ⟨guarded, accepted, reading, booked⟩ := settles
  have quiet : (announcement stored).filterMap Exchange.sent? = [] := by
    unfold announcement
    split
    · rfl
    · rfl
  rw [List.filterMap_append, List.filterMap_append, filterMap_sent?_of_isReading reading]
  exact congrArg (.ofOrder settings.notifyTopic order :: ·) quiet

end Settles

end Job

/-- What is published of an order does not tell its version. -/
theorem Message.ofOrder_nextVersion {topic : String} {order next : Order}
    (counted : order.nextVersion = .ok next) : ofOrder topic order = ofOrder topic next := by
  rw [(Order.nextVersion_eq_ok counted).1]
  rfl

/-- **The order that is stored** is the one that the handler handed back, but for its version, the
time of its change and what it is worth. -/
theorem Order.Books.settled {manner : Manner} {settings : Settings} {answer : PaymentResponse}
    {base order stored : Order} (booked : base.Books manner settings answer order)
    (counted : order.nextVersion = .ok stored) :
    ∃ returned, answer.order = some returned ∧
      stored =
        { returned with
          version := stored.version
          updatedAt := stored.updatedAt
          projectOutcome := stored.projectOutcome
          inPspCurrency := stored.inPspCurrency
          outMerchantCurrency := stored.outMerchantCurrency
          inSystemCurrency := stored.inSystemCurrency } ∧
      stored.version.toInt = base.version.toInt + 1 ∧
      returned.Worth manner settings stored.projectOutcome stored.inPspCurrency
        stored.outMerchantCurrency stored.inSystemCurrency := by
  obtain ⟨shape, later⟩ := nextVersion_eq_ok counted
  cases booked with
  | @booked returned amounts now handed allowed found =>
    have worth := worth_of_finds found
    refine ⟨returned, handed, ?_, later, ?_⟩
    · rw [shape]
      rfl
    · rw [shape]
      exact ⟨worth.inProject, worth.inPsp, worth.inMerchant, worth.inSystem⟩

/-- **An accepted notification at a store** settled the order that the store had, and the store has
the settled order afterwards. -/
theorem Job.settles_of_perform {settings : Settings} {behaviour : Behaviour}
    {notification : Notification} {provider : ProviderSettings} {store after : MemoryStore}
    {heard : List Exchange} {response : PaymentResponse}
    (handled : ((notify notification provider).flow settings).perform behaviour { store } =
      (.ok (.noticed (.handled response)), { store := after, heard }))
    (accepted : response.verdict = .accepted) :
    ∃ base answer order stored, response = { answer with order := some stored } ∧
      store.fetch notification.orderId = some base ∧ order.nextVersion = .ok stored ∧
      after.fetch notification.orderId = some stored ∧
      Settles (fun question answer => ⟨question, answer⟩ ∈ heard) settings notification provider
        base answer order stored heard := by
  obtain ⟨all, same, path, serves⟩ :=
    ((notify notification provider).flow settings).perform_serves behaviour { store }
  rw [handled] at same path serves
  obtain rfl : heard = all := same
  have course : (notify notification provider).Course
      (fun question answer => ⟨question, answer⟩ ∈ heard) settings heard
        (.done (.noticed (.handled response))) :=
    Job.course path fun exchange member => member
  obtain ⟨base, answer, order, stored, shape, settles⟩ := course.settles accepted
  obtain ⟨sameId, counted, found⟩ := settles.update serves.steps
  have fetched : store.fetch notification.orderId = some base := serves.fetch_of_head settles.head
  have isBase : base.id = notification.orderId := (MemoryStore.fetch_eq_some_iff.mp fetched).2
  rw [← sameId, isBase] at found
  exact ⟨base, answer, order, stored, shape, fetched, counted, found, settles⟩

/-- **What is published is what is stored.** At every store, for every order in it and whatever the
handler and everybody else answers: if a notification is handled and accepted, then

* exactly one message was handed to the broker, under the configured topic and with a retry count of
  zero, and its event is that of the order that is stored afterwards;
* the answer is that of the handler, with the stored order in it;
* the stored order is the one that the handler handed back but for its version, which is one more
  than before, the time of its change, and the four amounts that it is worth. -/
theorem settled_of_notice (settings : Settings) (behaviour : Behaviour)
    (notification : Notification) (provider : ProviderSettings) (store : MemoryStore)
    (response : PaymentResponse) :
    let done := ((Job.notify notification provider).flow settings).perform behaviour { store }
    done.1 = .ok (.noticed (.handled response)) → response.verdict = .accepted →
      ∃ base answer returned stored,
        store.fetch notification.orderId = some base ∧
        ⟨.readNotification base provider notification, .ok answer⟩ ∈ done.2.heard ∧
        answer.order = some returned ∧
        done.2.store.fetch notification.orderId = some stored ∧
        response = { answer with order := some stored } ∧
        done.2.heard.filterMap Exchange.sent? =
          [{ topic := settings.notifyTopic, headers := Dict.empty.insert "x-retry-count" 0,
             event := OrderEvent.ofOrder stored }] ∧
        stored =
          { returned with
            version := stored.version
            updatedAt := stored.updatedAt
            projectOutcome := stored.projectOutcome
            inPspCurrency := stored.inPspCurrency
            outMerchantCurrency := stored.outMerchantCurrency
            inSystemCurrency := stored.inSystemCurrency } ∧
        stored.version.toInt = base.version.toInt + 1 ∧
        returned.Worth (fun question answer => ⟨question, answer⟩ ∈ done.2.heard) settings
          stored.projectOutcome stored.inPspCurrency stored.outMerchantCurrency
          stored.inSystemCurrency := by
  intro done handled accepted
  obtain ⟨base, answer, order, stored, rfl, fetched, counted, found, settles⟩ :=
    Job.settles_of_perform (Prod.ext handled rfl) accepted
  have sent := settles.sent
  rw [Message.ofOrder_nextVersion counted] at sent
  obtain ⟨returned, handed, shape, later, worth⟩ := settles.booked.settled counted
  exact ⟨base, answer, returned, stored, fetched, settles.read, handed, found, rfl, sent, shape,
    later, worth⟩

/-! ### A desk that settles -/

/-- The answer to a notification that was accepted and done with. -/
def acceptedAnswer? : Except Stop Outcome → Option PaymentResponse
  | .ok (.noticed (.handled response)) => if response.verdict = .accepted then some response else none
  | _ => none

theorem acceptedAnswer?_eq_some {result : Except Stop Outcome} {response : PaymentResponse}
    (accepted : acceptedAnswer? result = some response) :
    result = .ok (.noticed (.handled response)) ∧ response.verdict = .accepted := by
  unfold acceptedAnswer? at accepted
  split at accepted
  · split at accepted
    · rename_i verdict
      obtain rfl := Option.some.inj accepted
      exact ⟨rfl, verdict⟩
    · cases accepted
  · cases accepted

/-- The card desk with a bank that creates every payment and reads notifications in its own way. -/
def bankDesk (reads : Order → PaymentResponse) : Desk :=
  { Office.cardDesk with
    handlers := HandlerRegistry.empty.register "bank"
      { createPayment := fun _ _ => { verdict := .accepted, message := "created" }
        readNotification := fun order _ => reads order } }

/-- Everybody answers as a desk does, and the store does not fail. -/
def Desk.behave (desk : Desk) : Behaviour := fun _ => desk.attend

/-- A store with one order, placed and waiting for the bank. -/
def waitingStore : MemoryStore :=
  let desk := bankDesk fun _ => { verdict := .pending, message := "" }
  let placed := ((Job.place
    { projectId := "shop", amount := .ofInt 10, account := "payer", method := some "card"
      payerEmail := some "payer@example.com" }).flow {}).perform desk.behave
        { store := .empty }
  (((Job.pay { orderId := "", methodId := "card" } ∅).flow {}).perform desk.behave
    placed.2).2.store

/-- The order with what the bank received, as a bank hands it back. -/
def Order.received (order : Order) (status : Status) : Order :=
  { order with status, methodIncome := .ofInt 10, methodIncomeCurrency := some "EUR" }

/-- A notification of that order, read by the bank in its own way. -/
def noticeOfWaiting (reads : Order → PaymentResponse) : Except Stop Outcome × Scene :=
  ((Job.notify ⟨"", .null⟩ ∅).flow {}).perform (bankDesk reads).behave
    { store := waitingStore }

/-- The bank says that the order is paid in full. -/
def readsPaid (order : Order) : PaymentResponse :=
  { verdict := .accepted, message := "paid", order := some (order.received .complete) }

theorem settled_of_notice_paid :
    ∃ response stored, (noticeOfWaiting readsPaid).1 = .ok (.noticed (.handled response)) ∧
      response.verdict = .accepted ∧ response.order = some stored ∧
      (noticeOfWaiting readsPaid).2.store.fetch "" = some stored ∧
      (noticeOfWaiting readsPaid).2.heard.filterMap Exchange.sent? =
        [⟨"notify_payment", Dict.empty.insert "x-retry-count" 0, .ofOrder stored⟩] := by
  have handled : (acceptedAnswer? (noticeOfWaiting readsPaid).1).isSome := by decide +kernel
  obtain ⟨response, isAnswer⟩ := Option.isSome_iff_exists.mp handled
  unfold noticeOfWaiting at isAnswer ⊢
  obtain ⟨done, accepted⟩ := acceptedAnswer?_eq_some isAnswer
  obtain ⟨base, answer, returned, stored, -, -, -, found, rfl, sent, -⟩ :=
    settled_of_notice {} (bankDesk readsPaid).behave ⟨"", .null⟩ ∅ waitingStore response
      done accepted
  exact ⟨_, stored, done, accepted, rfl, found, sent⟩

end Paydesk
