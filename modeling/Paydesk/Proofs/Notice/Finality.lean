/-
**Which notifications other services hear of.**

Whether an order is published is decided by the handler's verdict, and whether it is final by the
status of the order that the handler hands back; neither depends on the other. An accepted order is
published whatever its status, and a refused one is stored without a word.

* `Call.isService`, `Serviced`: no call to the store or the broker failed;
* `MemoryStore.finalizes`: an open order became final;
* `events_of_notice`: **what is published and announced** by a notification;
* `published_apart_from_final`: an order that a refused payment makes final, and one that an
  accepted payment leaves open.
-/

import Paydesk.Proofs.Notice.Settlement

namespace Paydesk

open Paydesk.Flow

/-- Whether a call goes to the store or to the broker. -/
def Call.isService : Call → Bool
  | fetch _ | fetchByClientId _ _ | insert _ | update _ | publish _ => true
  | _ => false

/-- Neither the store nor the broker failed in some exchanges. -/
def Serviced (heard : List Exchange) : Prop :=
  ∀ exchange ∈ heard, exchange.question.isService →
    exchange.question.succeeds exchange.answer

instance (heard : List Exchange) : Decidable (Serviced heard) :=
  inferInstanceAs (Decidable (∀ exchange ∈ heard, _ → _))

/-- The order that the hooks hear is settled for good. -/
def Exchange.finalized? : Exchange → Option Order
  | ⟨.announceFinalized order, _⟩ => some order
  | _ => none

/-- The orders that the hooks hear are settled for good. -/
def finalized (heard : List Exchange) : List Order := heard.filterMap Exchange.finalized?

/-- Whether the order of an id was open in one store and is final in another. -/
def MemoryStore.finalizes (store : MemoryStore) (id : String) (after : MemoryStore) : Bool :=
  (store.fetch id).any (!·.status.isFinal) && (after.fetch id).any (·.status.isFinal)

theorem finalized_of_unannounced {heard : List Exchange}
    (silent : ∀ exchange ∈ heard, exchange.announces = false) : finalized heard = [] := by
  refine List.filterMap_eq_nil_iff.mpr ?_
  rintro ⟨question, answer⟩ member
  have quiet := silent _ member
  cases question with
  | announceFinalized => cases quiet
  | _ => rfl

namespace Job

variable {manner : Manner} {settings : Settings} {notification : Notification}
  {provider : ProviderSettings} {heard : List Exchange} {answer : PaymentResponse}
  {base order stored : Order} {result : Except Stop Outcome}

/-- **A settlement tells the hooks** of the stored order if it is final. -/
theorem Settles.finalized
    (settles : Settles manner settings notification provider base answer order stored heard) :
    finalized heard = if stored.status.isFinal then [stored] else [] := by
  obtain ⟨guarded, accepted, reading, booked⟩ := settles
  have silent := (idle_of_isReading reading).unannounced
  unfold Paydesk.finalized
  rw [List.filterMap_append, List.filterMap_append, ← Paydesk.finalized,
    finalized_of_unannounced silent]
  show (announcement stored).filterMap Exchange.finalized? = _
  unfold announcement
  split
  · rfl
  · rfl

/-- The broker takes the message of a settlement. -/
theorem Settles.published
    (settles : Settles manner settings notification provider base answer order stored heard) :
    published heard = [.ofOrder settings.notifyTopic order] := by
  obtain ⟨guarded, accepted, reading, booked⟩ := settles
  have unpublished := (idle_of_isReading reading).unpublished
  have quiet : (announcement stored).filterMap Exchange.published? = [] := by
    unfold announcement
    split
    · rfl
    · rfl
  unfold Paydesk.published at unpublished ⊢
  rw [List.filterMap_append, List.filterMap_append, unpublished]
  exact congrArg (.ofOrder settings.notifyTopic order :: ·) quiet

/-- **A closing that is not a settlement** publishes nothing and announces nothing final of a
notification. -/
theorem Closes.silent {closing : Closing Outcome} {before after : List Exchange}
    {rest : Flow Outcome}
    (closes : (notify notification provider).Closes manner settings before closing)
    (way : closing.Way after rest) (elsewhere : closing.isSettlement = false) :
    Paydesk.published (before ++ after) = [] ∧ Paydesk.finalized (before ++ after) = [] := by
  have idle := idle_of_isReading closes.isReading
  have silent : Paydesk.published after = [] ∧ Paydesk.finalized after = [] := by
    cases closes with
    | known | pending =>
      cases way
      exact ⟨rfl, rfl⟩
    | refused =>
      cases way with
      | toUpdate | notUpdated | updated => exact ⟨rfl, rfl⟩
    | accepted => cases elsewhere
  unfold Paydesk.published Paydesk.finalized at silent ⊢
  rw [List.filterMap_append, List.filterMap_append, ← Paydesk.published, ← Paydesk.finalized,
    idle.unpublished, finalized_of_unannounced idle.unannounced]
  exact silent

/-- **A notification that is not accepted** is neither published nor announced, unless the store or
the broker fails. -/
theorem Course.silent
    (course : (notify notification provider).Course manner settings heard (ended result))
    (serviced : Serviced heard)
    (unaccepted : ∀ response, result = .ok (.noticed (.handled response)) →
      response.verdict ≠ .accepted) :
    Paydesk.published heard = [] ∧ Paydesk.finalized heard = [] := by
  generalize isEnd : ended result = rest at course
  cases course with
  | reading asked =>
    have idle := idle_of_isReading asked
    exact ⟨idle.unpublished, finalized_of_unannounced idle.unannounced⟩
  | @closing before after closing _ closes way =>
    cases isSettlement : closing.isSettlement with
    | false => exact closes.silent way isSettlement
    | true =>
      have working : ∀ exchange ∈ after, exchange.question.isService →
          exchange.question.succeeds exchange.answer :=
        fun exchange member => serviced exchange (List.mem_append_right _ member)
      cases closes with
      | known | pending | refused => cases isSettlement
      | accepted _ verdict =>
        exfalso
        rcases result with reason | outcome
        · cases isEnd
          cases way with
          | notPublished => simp [Call.isService, Call.succeeds, Except.isOk, Except.toBool] at working
          | notSettled => simp [Call.isService, Call.succeeds, Except.isOk, Except.toBool] at working
        · cases isEnd
          cases way with
          | settledOpen => exact unaccepted _ rfl verdict
          | settledFinally => exact unaccepted _ rfl verdict

end Job

/-- **What is published and announced** by a notification, at every store and whatever the handler
and everybody else answers while neither the store nor the broker fails:

* if the notification is handled and accepted, the order that is stored afterwards is published,
  once, and announced as final, once, if and only if the notification made it final;
* otherwise nothing is published;
* no order is ever announced as final but the stored one, and that only if the notification made it
  final. -/
theorem events_of_notice (settings : Settings) (behaviour : Behaviour)
    (notification : Notification) (provider : ProviderSettings) (store : MemoryStore) :
    let done := ((Job.notify notification provider).flow settings).perform behaviour { store }
    Serviced done.2.heard →
      (∀ response, done.1 = .ok (.noticed (.handled response)) → response.verdict = .accepted →
        ∃ stored, done.2.store.fetch notification.orderId = some stored ∧
          published done.2.heard = [.ofOrder settings.notifyTopic stored] ∧
          finalized done.2.heard =
            if store.finalizes notification.orderId done.2.store then [stored] else []) ∧
      ((∀ response, done.1 = .ok (.noticed (.handled response)) → response.verdict ≠ .accepted) →
        published done.2.heard = []) ∧
      (finalized done.2.heard).length ≤ 1 ∧
      (finalized done.2.heard ≠ [] → store.finalizes notification.orderId done.2.store) := by
  intro done serviced
  have unlessAccepted : (∀ response, done.1 = .ok (.noticed (.handled response)) →
      response.verdict ≠ .accepted) →
        published done.2.heard = [] ∧ finalized done.2.heard = [] := by
    intro unaccepted
    obtain ⟨heard, same, path, -⟩ :=
      ((Job.notify notification provider).flow settings).perform_spec behaviour { store }
    obtain rfl : done.2.heard = heard := same
    exact (Job.course path (Manner.any_of_mem _)).silent serviced unaccepted
  have ifAccepted : ∀ response, done.1 = .ok (.noticed (.handled response)) →
      response.verdict = .accepted →
        ∃ stored, done.2.store.fetch notification.orderId = some stored ∧
          published done.2.heard = [.ofOrder settings.notifyTopic stored] ∧
          finalized done.2.heard =
            if store.finalizes notification.orderId done.2.store then [stored] else [] := by
    intro response handled accepted
    obtain ⟨base, answer, order, stored, -, fetched, counted, found, settles⟩ :=
      Job.settles_of_perform (Prod.ext handled rfl) accepted
    refine ⟨stored, found, ?_, ?_⟩
    · rw [settles.published, Message.ofOrder_nextVersion counted]
    · rw [settles.finalized, MemoryStore.finalizes, fetched, found]
      simp [settles.wasOpen]
  refine ⟨ifAccepted, fun unaccepted => (unlessAccepted unaccepted).1, ?_⟩
  by_cases accepted : ∃ response, done.1 = .ok (.noticed (.handled response)) ∧
      response.verdict = .accepted
  · obtain ⟨response, handled, isAccepted⟩ := accepted
    obtain ⟨stored, -, -, announced⟩ := ifAccepted response handled isAccepted
    rw [announced]
    split
    · rename_i finalizes
      exact ⟨Nat.le_refl _, fun _ => finalizes⟩
    · exact ⟨Nat.zero_le _, fun nothing => absurd rfl nothing⟩
  · rw [(unlessAccepted fun response handled isAccepted =>
      accepted ⟨response, handled, isAccepted⟩).2]
    exact ⟨Nat.zero_le _, fun nothing => absurd rfl nothing⟩

/-- The bank finds the payment invalid and hands the order back as complete. -/
def readsInvalid (order : Order) : PaymentResponse :=
  { verdict := .invalid, message := "invalid", order := some (order.received .complete) }

/-- The bank accepts the payment and leaves the order open. -/
def readsOpen (order : Order) : PaymentResponse :=
  { verdict := .accepted, message := "in work", order := some (order.received .created) }

/-- **Publication and finality are two things.** A refused payment may make an order final that
nobody hears of; an accepted one is published though the order stays open. -/
theorem published_apart_from_final :
    (Serviced (noticeOfWaiting readsInvalid).2.heard ∧
      waitingStore.finalizes "" (noticeOfWaiting readsInvalid).2.store ∧
      published (noticeOfWaiting readsInvalid).2.heard = []) ∧
    Serviced (noticeOfWaiting readsOpen).2.heard ∧
      waitingStore.finalizes "" (noticeOfWaiting readsOpen).2.store = false ∧
      published (noticeOfWaiting readsOpen).2.heard ≠ [] := by
  decide +kernel

theorem events_of_notice_paid :
    Serviced (noticeOfWaiting readsPaid).2.heard ∧
      ∃ stored, (noticeOfWaiting readsPaid).2.store.fetch "" = some stored ∧
        published (noticeOfWaiting readsPaid).2.heard = [.ofOrder "notify_payment" stored] ∧
        finalized (noticeOfWaiting readsPaid).2.heard = [stored] := by
  have serviced : Serviced (noticeOfWaiting readsPaid).2.heard := by decide +kernel
  have handled : (acceptedAnswer? (noticeOfWaiting readsPaid).1).isSome := by decide +kernel
  have finalizes : waitingStore.finalizes "" (noticeOfWaiting readsPaid).2.store := by
    decide +kernel
  obtain ⟨response, isAnswer⟩ := Option.isSome_iff_exists.mp handled
  obtain ⟨done, accepted⟩ := acceptedAnswer?_eq_some isAnswer
  refine ⟨serviced, ?_⟩
  unfold noticeOfWaiting at serviced finalizes done ⊢
  obtain ⟨ifAccepted, -⟩ := events_of_notice {} (bankDesk readsPaid).behave ⟨"", .null⟩ ∅
    waitingStore serviced
  obtain ⟨stored, found, isPublished, isFinalized⟩ := ifAccepted response done accepted
  rw [if_pos finalizes] at isFinalized
  exact ⟨stored, found, isPublished, isFinalized⟩

end Paydesk
