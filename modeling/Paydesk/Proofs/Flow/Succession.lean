/-
**Which order may take the place of another.**

A job that stores an order in place of another fetched that one when it was still open, and goes at
most one step on from it. Of an order that is settled for good the hooks hear once for every time it
was stored so, and a notification that finds it settled does nothing more.

* `Order.Follows`: an order may take the place of another;
* `Job.follows_of_update`: **every order that a job writes** follows one that the job fetched;
* `Job.countP_announcesFinal_le`: the hooks are told no more often than an order was settled;
* `Job.settled_of_fetch`: what becomes of a notification of a settled order.
-/

import Paydesk.Proofs.Flow.Job

namespace Paydesk

/-! ### Succession -/

/-- An order may take the place of another: it is the same order at the same version, the other was
open, and the status is the same or one step on. -/
structure Order.Follows (base order : Order) : Prop where
  sameId : order.id = base.id
  sameVersion : order.version = base.version
  wasOpen : base.status.isFinal = false
  oneStep : order.status = base.status ∨ base.status.canBecome order.status

variable {manner : Manner} {settings : Settings} {base order : Order} {response : PaymentResponse}

theorem Status.not_isFinal_of_proceed {status : Status}
    (guarded : status.noticeGuard = .ok .proceed) : status.isFinal = false := by
  cases status with
  | created | rejected => rfl
  | new | declined | canceled | complete => cases guarded

theorem Status.noticeGuard_of_isFinal {status : Status} (isFinal : status.isFinal) :
    ∃ message, status.noticeGuard = .ok (.settled message) := by
  cases status with
  | declined | canceled | complete => exact ⟨_, rfl⟩
  | new | created | rejected => cases isFinal

/-- What a handler may hand back. -/
theorem Order.follows_of_checkReturned {returned : Order}
    (guarded : base.status.noticeGuard = .ok .proceed)
    (allowed : base.checkReturned returned = .ok ()) :
    base.Follows (returned.atVersionOf base) := by
  unfold checkReturned at allowed
  split at allowed
  · cases allowed
  rename_i sameId
  split at allowed
  · rename_i oneStep
    exact ⟨Decidable.not_not.mp sameId, rfl, Status.not_isFinal_of_proceed guarded, oneStep⟩
  · cases allowed

theorem Order.Books.follows (guarded : base.status.noticeGuard = .ok .proceed)
    (booked : base.Books manner settings response order) : base.Follows order := by
  obtain ⟨_, allowed, _⟩ := booked
  obtain ⟨sameId, sameVersion, wasOpen, oneStep⟩ := follows_of_checkReturned guarded allowed
  exact ⟨sameId, sameVersion, wasOpen, oneStep⟩

theorem Order.HandsBack.follows (guarded : base.status.noticeGuard = .ok .proceed)
    (handed : base.HandsBack response order) : base.Follows order := by
  rcases handed with ⟨_, allowed⟩ | _
  · obtain ⟨sameId, sameVersion, wasOpen, oneStep⟩ := follows_of_checkReturned guarded allowed
    exact ⟨sameId, sameVersion, wasOpen, oneStep⟩
  · exact ⟨rfl, rfl, Status.not_isFinal_of_proceed guarded, Or.inl rfl⟩

/-- A payment leaves id, version and status alone until the handler answers. -/
theorem Order.Prepares.same {request : PaymentRequest}
    (prepared : base.Prepares manner settings request order) :
    order.id = base.id ∧ order.version = base.version ∧ order.status = base.status := by
  obtain ⟨priced, email, amounts, repriced, rfl⟩ := prepared
  cases repriced with
  | kept => exact ⟨rfl, rfl, rfl⟩
  | switched => exact ⟨rfl, rfl, rfl⟩

theorem Order.Prepares.follows {request : PaymentRequest} {now : Instant}
    (isNew : base.status = .new) (prepared : base.Prepares manner settings request order) :
    base.Follows (order.afterPayment response now) := by
  obtain ⟨sameId, sameVersion, sameStatus⟩ := prepared.same
  refine ⟨sameId, sameVersion, by rw [isNew]; rfl, ?_⟩
  show order.statusAfter response.verdict = base.status ∨
    base.status.canBecome (order.statusAfter response.verdict)
  cases response.verdict with
  | accepted => exact Or.inr (by rw [isNew]; rfl)
  | broken => exact Or.inr (by rw [isNew]; rfl)
  | pending => exact Or.inl sameStatus
  | invalid => exact Or.inl sameStatus

/-! ### Settlements and their announcements -/

namespace Exchange

/-- Whether an order of an id is stored settled for good in place of another. -/
def settles (id : String) : Exchange → Bool
  | ⟨.update _, .ok stored⟩ => stored.id == id && stored.status.isFinal
  | _ => false

/-- Whether the hooks hear that an order of an id is settled for good. -/
def announcesFinal (id : String) : Exchange → Bool
  | ⟨.announceFinalized order, _⟩ => order.id == id
  | _ => false

end Exchange

theorem countP_announcesFinal_of_isReading {heard : List Exchange} {id : String}
    (asked : ∀ exchange ∈ heard, exchange.question.isReading) :
    heard.countP (Exchange.announcesFinal id) = 0 := by
  rw [List.countP_eq_zero]
  rintro ⟨question, answer⟩ member announces
  have reading := asked _ member
  cases question with
  | announceFinalized => cases reading
  | _ => cases announces

theorem Closing.Way.countP_announcesFinal_le {α : Type} {closing : Closing α}
    {heard : List Exchange} {rest : Flow α} (way : closing.Way heard rest) (id : String) :
    heard.countP (Exchange.announcesFinal id) ≤ heard.countP (Exchange.settles id) := by
  cases way with
  | @settledFinally message order stored finish isFinal =>
    by_cases same : stored.id = id
    · simp [Exchange.announcesFinal, Exchange.settles, same, isFinal]
    · simp [Exchange.announcesFinal, Exchange.settles, same]
  | _ => simp [Exchange.announcesFinal]

namespace Job

variable {job : Job} {heard before : List Exchange} {rest : Flow Outcome}
  {closing : Closing Outcome}

/-! ### What a job writes -/

theorem Closes.isReading (closes : job.Closes manner settings before closing) :
    ∀ exchange ∈ before, exchange.question.isReading := by
  cases closes with
  | placing inquiries => exact forall_isReading inquiries
  | paying _ inquiries =>
    have asked := forall_isReading inquiries
    refine List.forall_mem_append.mpr ⟨List.forall_mem_cons.mpr ⟨rfl, asked⟩, ?_⟩
    simp [Call.isReading, Call.isInquiry]
  | known => simp [Call.isReading]
  | pending => simp [Call.isReading]
  | accepted _ _ inquiries => simpa [Call.isReading] using forall_isReading inquiries
  | refused _ _ inquiries => simpa [Call.isReading] using forall_isReading inquiries

/-- The order that a closing stores in place of another follows one that was fetched. -/
theorem Closes.follows (closes : job.Closes manner settings before closing)
    (change : closing.change? = some order) :
    ∃ id base, ⟨.fetch id, .ok (some base)⟩ ∈ before ∧ base.Follows order := by
  cases closes with
  | placing => cases change
  | known => cases change
  | pending => cases change
  | paying isNew _ prepared =>
    obtain rfl := Option.some.inj change
    exact ⟨_, _, List.mem_append_left _ List.mem_cons_self, prepared.follows isNew⟩
  | accepted guarded _ _ booked =>
    obtain rfl := Option.some.inj change
    exact ⟨_, _, List.mem_cons_self, booked.follows guarded⟩
  | refused guarded _ _ handed =>
    obtain rfl := Option.some.inj change
    exact ⟨_, _, List.mem_cons_self, handed.follows guarded⟩

/-- **Every order that a job writes** in place of another follows one that the job fetched. -/
theorem follows_of_update {next : Except StoreError Order → Flow Outcome}
    (path : (job.flow settings).Goes heard (.call (.update order) next)) :
    ∃ id base, ⟨.fetch id, .ok (some base)⟩ ∈ heard ∧ base.Follows order := by
  cases course path (Manner.any_of_mem heard) with
  | reading _ reads => cases reads with | asking reading => cases reading
  | closing closes way =>
    obtain ⟨id, base, fetched, follows⟩ := closes.follows way.change
    exact ⟨id, base, List.mem_append_left _ fetched, follows⟩

/-! ### What the hooks hear -/

/-- **The hooks are told** that an order was settled for good no more often than it was. -/
theorem countP_announcesFinal_le (path : (job.flow settings).Goes heard rest) (id : String) :
    heard.countP (Exchange.announcesFinal id) ≤ heard.countP (Exchange.settles id) := by
  cases course path (Manner.any_of_mem heard) with
  | reading asked => rw [countP_announcesFinal_of_isReading asked]; exact Nat.zero_le _
  | closing closes way =>
    rw [List.countP_append, List.countP_append,
      countP_announcesFinal_of_isReading closes.isReading, Nat.zero_add]
    exact Nat.le_trans (way.countP_announcesFinal_le id) (Nat.le_add_left _ _)

/-- **A notification of a settled order** hears nothing more and is done with that order. -/
theorem settled_of_fetch {notification : Notification} {provider : ProviderSettings}
    {later : List Exchange} (isFinal : base.status.isFinal)
    (path : ((notify notification provider).flow settings).Goes
      (⟨.fetch notification.orderId, .ok (some base)⟩ :: later) rest) :
    later = [] ∧ ∃ message, rest = .done (.noticed (.alreadyProcessed base message)) := by
  obtain ⟨left, own, rfl⟩ := Flow.goes_map.mp path
  have onward := Flow.goes_of_fetched own
  obtain ⟨message, guarded⟩ := Status.noticeGuard_of_isFinal isFinal
  rw [guarded] at onward
  obtain ⟨rfl, rfl⟩ := Flow.goes_done.mp onward
  exact ⟨rfl, message, rfl⟩

end Job

end Paydesk
