/-
**The jobs of the desk.**

A job places an order, pays it or notifies the desk of it. Whatever order a job is going to store,
it fetched the order of that id once, at its start, found out what it needed, and closes.

* `Job`, `Job.flow`, `Outcome`: the three flows as one;
* `Job.Closes`: what a job heard before it closes, and how it closes then;
* `Flow.goes_fetch`, `Flow.goes_readNotification`: how flows begin;
* `Job.course`: **every path of a job** only reads, or ends on the way of its closing.
-/

import Paydesk.Proofs.Flow.Closing
import Paydesk.Proofs.Flow.Finding

namespace Paydesk

/-- What came of a job. -/
inductive Outcome where
  | placed (order : Order)
  | paid (response : PaymentResponse)
  | noticed (outcome : NoticeOutcome)
  deriving DecidableEq

/-- What the desk is asked to do. -/
inductive Job where
  | place (request : OrderRequest)
  | pay (request : PaymentRequest) (provider : ProviderSettings)
  | notify (notification : Notification) (provider : ProviderSettings)

namespace Job

/-- The flow of a job. -/
def flow (settings : Settings) : Job → Flow Outcome
  | place request => .placed <$> request.place settings
  | pay request provider => .paid <$> request.pay settings provider
  | notify notification provider => .noticed <$> notification.process settings provider

/-- **How a job closes** after what it heard. -/
inductive Closes (manner : Manner) (settings : Settings) :
    Job → List Exchange → Closing Outcome → Prop where
  | placing {request : OrderRequest} {asked : List Exchange} {order : Order}
      (inquiries : ∀ exchange ∈ asked, exchange.question.isInquiry)
      (drafted : request.Drafts manner settings order) :
      Closes manner settings (.place request) asked (.insert order .placed)
  | paying {request : PaymentRequest} {provider : ProviderSettings} {asked : List Exchange}
      {base order : Order} {response : PaymentResponse} {now : Instant}
      (isNew : base.status = .new)
      (inquiries : ∀ exchange ∈ asked, exchange.question.isInquiry)
      (prepared : base.Prepares manner settings request order) :
      Closes manner settings (.pay request provider)
        (⟨.fetch request.orderId, .ok (some base)⟩ :: asked ++
          [⟨.createPayment order provider request.requisites, .ok response⟩, ⟨.clock, now⟩])
        (.update (order.afterPayment response now) fun _ => .paid response)
  | known {notification : Notification} {provider : ProviderSettings} {base : Order}
      {message : String} (guarded : base.status.noticeGuard = .ok (.settled message)) :
      Closes manner settings (.notify notification provider)
        [⟨.fetch notification.orderId, .ok (some base)⟩]
        (.give (.noticed (.alreadyProcessed base message)))
  | pending {notification : Notification} {provider : ProviderSettings} {base : Order}
      {response : PaymentResponse} (guarded : base.status.noticeGuard = .ok .proceed)
      (verdict : response.verdict = .pending) :
      Closes manner settings (.notify notification provider)
        [⟨.fetch notification.orderId, .ok (some base)⟩,
          ⟨.readNotification base provider notification, .ok response⟩]
        (.give (.noticed (.handled response)))
  | accepted {notification : Notification} {provider : ProviderSettings} {asked : List Exchange}
      {base order : Order} {response : PaymentResponse}
      (guarded : base.status.noticeGuard = .ok .proceed) (verdict : response.verdict = .accepted)
      (inquiries : ∀ exchange ∈ asked, exchange.question.isInquiry)
      (booked : base.Books manner settings response order) :
      Closes manner settings (.notify notification provider)
        (⟨.fetch notification.orderId, .ok (some base)⟩ ::
          ⟨.readNotification base provider notification, .ok response⟩ :: asked)
        (.settle (.ofOrder settings.notifyTopic order) order fun stored =>
          .noticed (.handled { response with order := some stored }))
  | refused {notification : Notification} {provider : ProviderSettings} {asked : List Exchange}
      {base order : Order} {response : PaymentResponse}
      (guarded : base.status.noticeGuard = .ok .proceed)
      (verdict : response.verdict = .invalid ∨ response.verdict = .broken)
      (inquiries : ∀ exchange ∈ asked, exchange.question.isInquiry)
      (handed : base.HandsBack response order) :
      Closes manner settings (.notify notification provider)
        (⟨.fetch notification.orderId, .ok (some base)⟩ ::
          ⟨.readNotification base provider notification, .ok response⟩ :: asked)
        (.update order fun _ => .noticed (.handled response))

/-- A path that only read so far, or that is on the way of the job's closing. -/
inductive Course (manner : Manner) (settings : Settings) (job : Job) :
    List Exchange → Flow Outcome → Prop where
  | reading {heard : List Exchange} {rest : Flow Outcome}
      (asked : ∀ exchange ∈ heard, exchange.question.isReading) (reads : rest.Reads) :
      Course manner settings job heard rest
  | closing {before after : List Exchange} {closing : Closing Outcome} {rest : Flow Outcome}
      (closes : job.Closes manner settings before closing) (way : closing.Way after rest) :
      Course manner settings job (before ++ after) rest

end Job

namespace Flow

variable {α β : Type}

/-- **A flow that begins with an order of an id** reads until it has that order and goes on. -/
theorem goes_fetch {id : String} {next : Order → Flow α} {heard : List Exchange} {rest : Flow α}
    (path : Goes (do next (← orRefuse .orderNotFound (← fetch id))) heard rest) :
    ((∀ exchange ∈ heard, exchange.question.isReading) ∧ rest.Reads) ∨
      ∃ base later, heard = ⟨.fetch id, .ok (some base)⟩ :: later ∧ (next base).Goes later rest := by
  rcases goes_call.mp path with ⟨rfl, rfl⟩ | ⟨found, later, rfl, onward⟩
  · exact Or.inl ⟨by simp, .asking rfl⟩
  rcases found with error | - | base
  · obtain ⟨rfl, rfl⟩ := goes_stop.mp onward
    exact Or.inl ⟨by simp [Call.isReading], .stopped _⟩
  · obtain ⟨rfl, rfl⟩ := goes_stop.mp onward
    exact Or.inl ⟨by simp [Call.isReading], .stopped _⟩
  · exact Or.inr ⟨base, later, rfl, onward⟩

/-- What is left of such a flow once it has the order. -/
theorem goes_of_fetched {id : String} {next : Order → Flow α} {base : Order}
    {later : List Exchange} {rest : Flow α}
    (path : Goes (do next (← orRefuse .orderNotFound (← fetch id)))
      (⟨.fetch id, .ok (some base)⟩ :: later) rest) : (next base).Goes later rest := by
  rcases goes_call.mp path with ⟨nothing, -⟩ | ⟨found, heard, same, onward⟩
  · cases nothing
  · cases same
    exact onward

/-- **A flow that begins with a handler reading a notification** reads until it has the response
and goes on. -/
theorem goes_readNotification {order : Order} {provider : ProviderSettings}
    {notification : Notification} {next : PaymentResponse → Flow α} {heard : List Exchange}
    {rest : Flow α}
    (path : Goes
      (do next (← orFail .handler (← ask (.readNotification order provider notification))))
      heard rest) :
    ((∀ exchange ∈ heard, exchange.question.isReading) ∧ rest.Reads) ∨
      ∃ response later, heard = ⟨.readNotification order provider notification, .ok response⟩ ::
        later ∧ (next response).Goes later rest := by
  rcases goes_call.mp path with ⟨rfl, rfl⟩ | ⟨answer, later, rfl, onward⟩
  · exact Or.inl ⟨by simp, .asking rfl⟩
  rcases answer with error | response
  · obtain ⟨rfl, rfl⟩ := goes_stop.mp onward
    exact Or.inl ⟨by simp [Call.isReading], .stopped _⟩
  · exact Or.inr ⟨response, later, rfl, onward⟩

/-- A flow that reads still does so if its value is changed at the end. -/
theorem Reads.map {flow : Flow α} (change : α → β) (reads : flow.Reads) :
    Reads (change <$> flow) := by
  cases reads with
  | stopped reason => exact .stopped reason
  | asking reading => exact .asking reading

end Flow

namespace Closing

variable {α β : Type}

/-- The way of a closing whose value is changed at the end. -/
theorem way_map (closing : Closing α) (change : α → β) {heard : List Exchange} {rest : Flow α}
    (path : closing.flow.Goes heard rest) : (closing.map change).Way heard (change <$> rest) := by
  refine way_of_goes ?_
  rw [flow_map]
  exact Flow.goes_map.mpr ⟨rest, path, rfl⟩

end Closing

namespace Job

variable {manner : Manner} {settings : Settings} {heard : List Exchange} {rest : Flow Outcome}

theorem forall_isReading (asked : ∀ exchange ∈ heard, exchange.question.isInquiry) :
    ∀ exchange ∈ heard, exchange.question.isReading :=
  fun exchange member => Call.isReading_of_isInquiry (asked exchange member)

/-! ### Placing -/

theorem course_place {request : OrderRequest}
    (path : ((place request).flow settings).Goes heard rest)
    (within : ∀ exchange ∈ heard, manner exchange.question exchange.answer) :
    (place request).Course manner settings heard rest := by
  obtain ⟨left, own, rfl⟩ := Flow.goes_map.mp path
  rcases OrderRequest.draft_yields.course own within with
    ⟨asked, reads⟩ | ⟨before, after, order, rfl, asked, drafted, onward⟩
  · exact .reading (forall_isReading asked) (reads.map _)
  · have way := Closing.way_map (.insert order id) Outcome.placed onward
    exact .closing (.placing asked drafted) way

/-! ### Paying -/

/-- A payment of an order that was found to be new. -/
theorem course_payBy {request : PaymentRequest} {provider : ProviderSettings} {base : Order}
    {left : Flow PaymentResponse} (isNew : base.status = .new)
    (path : (base.payBy settings request provider).Goes heard left)
    (within : ∀ exchange ∈ heard, manner exchange.question exchange.answer) :
    (pay request provider).Course manner settings
      (⟨.fetch request.orderId, .ok (some base)⟩ :: heard) (.paid <$> left) := by
  rcases (Order.forPayment_yields base request).course path within with
    ⟨asked, reads⟩ | ⟨before, after, order, rfl, asked, prepared, onward⟩
  · exact .reading (List.forall_mem_cons.mpr ⟨rfl, forall_isReading asked⟩) (reads.map _)
  have reading := forall_isReading asked
  rcases Flow.goes_call.mp onward with ⟨rfl, rfl⟩ | ⟨created, later, rfl, further⟩
  · exact .reading (by simpa [Call.isReading] using reading) (.asking rfl)
  rcases created with error | response
  · obtain ⟨rfl, rfl⟩ := Flow.goes_stop.mp further
    exact .reading (by simpa [Call.isReading, or_imp, forall_and] using reading) (.stopped _)
  rcases Flow.goes_call.mp further with ⟨rfl, rfl⟩ | ⟨now, last, rfl, final⟩
  · exact .reading (by simpa [Call.isReading, or_imp, forall_and] using reading) (.asking rfl)
  have way := Closing.way_map (.update (order.afterPayment response now) fun _ => response)
    Outcome.paid final
  simpa using Course.closing (.paying isNew asked prepared) way

theorem course_pay {request : PaymentRequest} {provider : ProviderSettings}
    (path : ((pay request provider).flow settings).Goes heard rest)
    (within : ∀ exchange ∈ heard, manner exchange.question exchange.answer) :
    (pay request provider).Course manner settings heard rest := by
  obtain ⟨left, own, rfl⟩ := Flow.goes_map.mp path
  rcases Flow.goes_fetch own with ⟨asked, reads⟩ | ⟨base, later, rfl, onward⟩
  · exact .reading asked (reads.map _)
  rw [List.forall_mem_cons] at within
  cases status : base.status with
  | new =>
    rw [status] at onward
    exact course_payBy status onward within.2
  | _ =>
    rw [status] at onward
    obtain ⟨rfl, rfl⟩ := Flow.goes_stop.mp onward
    exact .reading (by simp [Call.isReading]) (.stopped _)

/-! ### Notifying -/

section Heard

variable {notification : Notification} {provider : ProviderSettings} {base : Order}
  {response : PaymentResponse} {left : Flow NoticeOutcome}

/-- A job that has heard from the handler and inquires on only read so far. -/
theorem forall_isReading_of_heard (asked : ∀ exchange ∈ heard, exchange.question.isInquiry) :
    ∀ exchange ∈ (⟨.fetch notification.orderId, .ok (some base)⟩ : Exchange) ::
      ⟨.readNotification base provider notification, .ok response⟩ :: heard,
        exchange.question.isReading :=
  List.forall_mem_cons.mpr ⟨rfl, List.forall_mem_cons.mpr ⟨rfl, forall_isReading asked⟩⟩

theorem course_settle (guarded : base.status.noticeGuard = .ok .proceed)
    (verdict : response.verdict = .accepted)
    (path : (base.settle settings response).Goes heard left)
    (within : ∀ exchange ∈ heard, manner exchange.question exchange.answer) :
    (notify notification provider).Course manner settings
      (⟨.fetch notification.orderId, .ok (some base)⟩ ::
        ⟨.readNotification base provider notification, .ok response⟩ :: heard)
      (.noticed <$> left) := by
  rcases (Order.booked_yields base response).course path within with
    ⟨asked, reads⟩ | ⟨before, after, order, rfl, asked, booked, final⟩
  · exact .reading (forall_isReading_of_heard asked) (reads.map _)
  · have way := Closing.way_map (.settle (.ofOrder settings.notifyTopic order) order fun stored =>
      NoticeOutcome.handled { response with order := some stored }) Outcome.noticed final
    exact .closing (.accepted guarded verdict asked booked) way

theorem course_keepRefused (guarded : base.status.noticeGuard = .ok .proceed)
    (verdict : response.verdict = .invalid ∨ response.verdict = .broken)
    (path : (base.keepRefused response).Goes heard left)
    (within : ∀ exchange ∈ heard, manner exchange.question exchange.answer) :
    (notify notification provider).Course manner settings
      (⟨.fetch notification.orderId, .ok (some base)⟩ ::
        ⟨.readNotification base provider notification, .ok response⟩ :: heard)
      (.noticed <$> left) := by
  rcases (Order.handedBack_yields base response).course path within with
    ⟨asked, reads⟩ | ⟨before, after, order, rfl, asked, handed, final⟩
  · exact .reading (forall_isReading_of_heard asked) (reads.map _)
  · have way := Closing.way_map (.update order fun _ => NoticeOutcome.handled response)
      Outcome.noticed final
    exact .closing (.refused guarded verdict asked handed) way

/-- A notification of an order that was found not to be settled. -/
theorem course_hear (guarded : base.status.noticeGuard = .ok .proceed)
    (path : (base.hear settings notification provider).Goes heard left)
    (within : ∀ exchange ∈ heard, manner exchange.question exchange.answer) :
    (notify notification provider).Course manner settings
      (⟨.fetch notification.orderId, .ok (some base)⟩ :: heard) (.noticed <$> left) := by
  rcases Flow.goes_readNotification path with ⟨asked, reads⟩ | ⟨response, later, rfl, onward⟩
  · exact .reading (List.forall_mem_cons.mpr ⟨rfl, asked⟩) (reads.map _)
  rw [List.forall_mem_cons] at within
  cases verdict : response.verdict with
  | pending =>
    rw [verdict] at onward
    obtain ⟨rfl, rfl⟩ := Flow.goes_done.mp onward
    exact .closing (.pending guarded verdict) .given
  | accepted =>
    rw [verdict] at onward
    exact course_settle guarded verdict onward within.2
  | invalid =>
    rw [verdict] at onward
    exact course_keepRefused guarded (Or.inl verdict) onward within.2
  | broken =>
    rw [verdict] at onward
    exact course_keepRefused guarded (Or.inr verdict) onward within.2

end Heard

theorem course_notify {notification : Notification} {provider : ProviderSettings}
    (path : ((notify notification provider).flow settings).Goes heard rest)
    (within : ∀ exchange ∈ heard, manner exchange.question exchange.answer) :
    (notify notification provider).Course manner settings heard rest := by
  obtain ⟨left, own, rfl⟩ := Flow.goes_map.mp path
  rcases Flow.goes_fetch own with ⟨asked, reads⟩ | ⟨base, later, rfl, onward⟩
  · exact .reading asked (reads.map _)
  rw [List.forall_mem_cons] at within
  rcases guarded : base.status.noticeGuard with refusal | - | message
  · rw [guarded] at onward
    obtain ⟨rfl, rfl⟩ := Flow.goes_stop.mp onward
    exact .reading (by simp [Call.isReading]) (.stopped _)
  · rw [guarded] at onward
    exact course_hear guarded onward within.2
  · rw [guarded] at onward
    obtain ⟨rfl, rfl⟩ := Flow.goes_done.mp onward
    exact .closing (.known guarded) .given

/-- **Every path of a job.** -/
theorem course {job : Job} (path : (job.flow settings).Goes heard rest)
    (within : ∀ exchange ∈ heard, manner exchange.question exchange.answer) :
    job.Course manner settings heard rest := by
  cases job with
  | place request => exact course_place path within
  | pay request provider => exact course_pay path within
  | notify notification provider => exact course_notify path within

end Job

end Paydesk
