/-
**Failed jobs have no effect.**

A job on its own is run call by call: the store in memory answers for itself, everybody else answers
as they like and may fail at any call. What a job does happens in its closing, and a closing that
stops wrote nothing; only a settlement whose last call fails has published its order by then.

* `Scene`, `Flow.perform`: a flow run alone at a store, with a behaviour of everybody else;
* `perform_serves`, `perform_spec`: a run goes along a path of the flow, and the store along with
  it;
* `job_effects`: **the effects of jobs** that fail, that hear that nothing is decided, and that
  place an order.
-/

import Paydesk.Proofs.Flow.Succession
import Paydesk.Proofs.Store.Serve

namespace Paydesk

/-! ### One flow alone -/

/-- What comes from outside, after what was heard before. -/
abbrev Behaviour : Type := List Exchange → (question : Call) → question.Answer

/-- A store and all that was heard so far. -/
structure Scene where
  store : MemoryStore
  heard : List Exchange := []

/-- The answer to a call. -/
def Scene.answer (behaviour : Behaviour) (question : Call) : StateM Scene question.Answer :=
  fun scene =>
    let served := scene.store.serve question (behaviour scene.heard question)
    (served.1, { store := served.2, heard := scene.heard ++ [⟨question, served.1⟩] })

/-- What a store answers to one call after another, with something said from outside to each. -/
inductive MemoryStore.Serves : MemoryStore → List Exchange → MemoryStore → Prop where
  | here (store : MemoryStore) : Serves store [] store
  | on {store next after : MemoryStore} {question : Call} {said answer : question.Answer}
      {later : List Exchange} (served : store.serve question said = (answer, next))
      (further : Serves next later after) : Serves store (⟨question, answer⟩ :: later) after

/-- A store before and after some exchanges. -/
inductive MemoryStore.Steps : MemoryStore → List Exchange → MemoryStore → Prop where
  | here (store : MemoryStore) : Steps store [] store
  | on {store next after : MemoryStore} {exchange : Exchange} {later : List Exchange}
      (step : store.Step exchange next) (further : Steps next later after) :
      Steps store (exchange :: later) after

/-- What a store answers takes it one step after another. -/
theorem MemoryStore.Serves.steps {store after : MemoryStore} {heard : List Exchange}
    (serves : store.Serves heard after) : store.Steps heard after := by
  induction serves with
  | here => exact .here _
  | on served _ ih => exact .on (step_of_serve served) ih

namespace Flow

variable {α : Type}

/-- A flow run alone from a scene. -/
def perform (behaviour : Behaviour) (flow : Flow α) (scene : Scene) : Except Stop α × Scene :=
  (flow.run (Scene.answer behaviour)).run scene

/-- What is left of a flow at its end. -/
def ended : Except Stop α → Flow α
  | .ok value => done value
  | .error reason => stop reason

/-- **A run goes along a path** of the flow, and the store answers along it. -/
theorem perform_serves (behaviour : Behaviour) (flow : Flow α) (scene : Scene) :
    ∃ heard, (flow.perform behaviour scene).2.heard = scene.heard ++ heard ∧
      flow.Goes heard (ended (flow.perform behaviour scene).1) ∧
      scene.store.Serves heard (flow.perform behaviour scene).2.store := by
  induction flow generalizing scene with
  | done value => exact ⟨[], (List.append_nil _).symm, .here _, .here _⟩
  | stop reason => exact ⟨[], (List.append_nil _).symm, .here _, .here _⟩
  | call question next ih =>
    let served := scene.store.serve question (behaviour scene.heard question)
    obtain ⟨later, heard, path, serves⟩ :=
      ih served.1 { store := served.2, heard := scene.heard ++ [⟨question, served.1⟩] }
    refine ⟨⟨question, served.1⟩ :: later, ?_, .on path, .on rfl serves⟩
    rw [← List.append_cons] at heard
    exact heard

/-- A run goes along a path of the flow, and the store along with it. -/
theorem perform_spec (behaviour : Behaviour) (flow : Flow α) (scene : Scene) :
    ∃ heard, (flow.perform behaviour scene).2.heard = scene.heard ++ heard ∧
      flow.Goes heard (ended (flow.perform behaviour scene).1) ∧
      scene.store.Steps heard (flow.perform behaviour scene).2.store := by
  obtain ⟨heard, same, path, serves⟩ := flow.perform_serves behaviour scene
  exact ⟨heard, same, path, serves.steps⟩

/-- A run of a flow whose value is changed at the end hears the same and leaves the same store. -/
theorem perform_map {β : Type} (behaviour : Behaviour) (change : α → β) (flow : Flow α)
    (scene : Scene) :
    (change <$> flow).perform behaviour scene =
      ((flow.perform behaviour scene).1.map change, (flow.perform behaviour scene).2) := by
  induction flow generalizing scene with
  | done value => rfl
  | stop reason => rfl
  | call question next ih => exact ih _ _

end Flow

/-! ### Effects -/

namespace Exchange

/-- Whether the hooks hear of an order. -/
def announces : Exchange → Bool
  | ⟨.announceCreated _, _⟩ | ⟨.announceFinalized _, _⟩ => true
  | _ => false

/-- The new order that the hooks hear of. -/
def created? : Exchange → Option Order
  | ⟨.announceCreated order, _⟩ => some order
  | _ => none

/-- The message that is published. -/
def published? : Exchange → Option Message
  | ⟨.publish message, .ok _⟩ => some message
  | _ => none

/-- The verdict of a handler on a notification. -/
def noticeVerdict? : Exchange → Option Verdict
  | ⟨.readNotification _ _ _, .ok response⟩ => some response.verdict
  | _ => none

/-- Whether a handler accepts a notification. -/
def accepts (exchange : Exchange) : Bool := exchange.noticeVerdict? == some .accepted

/-- The order that a store refuses to update. -/
def refused? : Exchange → Option Order
  | ⟨.update order, .error _⟩ => some order
  | _ => none

end Exchange

/-- The messages that are published in some exchanges. -/
def published (heard : List Exchange) : List Message := heard.filterMap Exchange.published?

/-- The order of a settlement whose last call fails: an accepted notification that ends with a
refused update. -/
def unsettled? (heard : List Exchange) : Option Order :=
  if heard.any Exchange.accepts then heard.getLast?.bind Exchange.refused? else none

/-- Exchanges without any effect. -/
structure Idle (heard : List Exchange) : Prop where
  unwritten : ∀ exchange ∈ heard, exchange.written? = none
  unannounced : ∀ exchange ∈ heard, exchange.announces = false
  unpublished : published heard = []

theorem idle_of_isReading {heard : List Exchange}
    (asked : ∀ exchange ∈ heard, exchange.question.isReading) : Idle heard := by
  have each : ∀ exchange ∈ heard, exchange.written? = none ∧ exchange.announces = false ∧
      exchange.published? = none := by
    rintro ⟨question, answer⟩ member
    have reading := asked _ member
    cases question with
    | insert | update | publish | announceCreated | announceFinalized => cases reading
    | _ => exact ⟨rfl, rfl, rfl⟩
  refine ⟨fun exchange member => (each exchange member).1,
    fun exchange member => (each exchange member).2.1, ?_⟩
  exact List.filterMap_eq_nil_iff.mpr fun exchange member => (each exchange member).2.2

theorem filterMap_created?_of_isReading {heard : List Exchange}
    (asked : ∀ exchange ∈ heard, exchange.question.isReading) :
    heard.filterMap Exchange.created? = [] := by
  refine List.filterMap_eq_nil_iff.mpr ?_
  rintro ⟨question, answer⟩ member
  have reading := asked _ member
  cases question with
  | announceCreated => cases reading
  | _ => rfl

namespace MemoryStore

variable {store after : MemoryStore}

/-- A store that nothing is written to stays as it is. -/
theorem Steps.eq_of_unwritten {heard : List Exchange} (steps : store.Steps heard after)
    (unwritten : ∀ exchange ∈ heard, exchange.written? = none) : after = store := by
  induction steps with
  | here => rfl
  | on step _ ih =>
    rw [List.forall_mem_cons] at unwritten
    rw [ih unwritten.2]
    cases step with
    | kept => rfl
    | added => cases unwritten.1
    | changed => cases unwritten.1

theorem steps_append {first second : List Exchange} :
    store.Steps (first ++ second) after ↔
      ∃ middle, store.Steps first middle ∧ middle.Steps second after := by
  induction first generalizing store with
  | nil =>
    constructor
    · exact fun steps => ⟨store, .here store, steps⟩
    · rintro ⟨middle, ⟨⟩, steps⟩
      exact steps
  | cons exchange later ih =>
    constructor
    · rintro (_ | ⟨step, further⟩)
      obtain ⟨middle, before, onward⟩ := ih.mp further
      exact ⟨middle, .on step before, onward⟩
    · rintro ⟨middle, _ | ⟨step, before⟩, onward⟩
      exact .on step (ih.mpr ⟨middle, before, onward⟩)

end MemoryStore

/-! ### Closings that stop -/

namespace Closing

variable {α : Type} {closing : Closing α} {heard : List Exchange}

/-- Whether a closing is a settlement. -/
def isSettlement : Closing α → Bool
  | settle _ _ _ => true
  | _ => false

/-- **A closing that stops** wrote and announced nothing. -/
theorem Way.unwritten_of_stop {reason : Stop} (way : closing.Way heard (.stop reason)) :
    (∀ exchange ∈ heard, exchange.written? = none) ∧
      ∀ exchange ∈ heard, exchange.announces = false := by
  cases way with
  | notInserted | notUpdated | notPublished | notSettled =>
    simp [Exchange.written?, Exchange.announces]

/-- No closing asks a handler about a notification. -/
theorem Way.noticeVerdict?_eq_none {rest : Flow α} (way : closing.Way heard rest) :
    ∀ exchange ∈ heard, exchange.noticeVerdict? = none := by
  cases way <;> simp [Exchange.noticeVerdict?]

end Closing

namespace Job

variable {manner : Manner} {settings : Settings} {job : Job} {before after heard : List Exchange}
  {closing : Closing Outcome} {reason : Stop} {rest : Flow Outcome}

theorem noticeVerdict?_of_isInquiry (asked : ∀ exchange ∈ heard, exchange.question.isInquiry) :
    ∀ exchange ∈ heard, exchange.noticeVerdict? = none := by
  rintro ⟨question, answer⟩ member
  have inquiry := asked _ member
  cases question with
  | readNotification => cases inquiry
  | _ => rfl

theorem any_accepts_of_isInquiry (asked : ∀ exchange ∈ heard, exchange.question.isInquiry) :
    heard.any Exchange.accepts = false := by
  rw [List.any_eq_false]
  intro exchange member
  rw [Exchange.accepts, noticeVerdict?_of_isInquiry asked exchange member]
  decide

/-- **A job settles** if and only if the handler accepts. -/
theorem Closes.any_accepts (closes : job.Closes manner settings before closing) :
    before.any Exchange.accepts = closing.isSettlement := by
  cases closes with
  | placing inquiries => exact any_accepts_of_isInquiry inquiries
  | paying _ inquiries =>
    rw [List.any_append, List.any_cons, any_accepts_of_isInquiry inquiries]
    rfl
  | known => rfl
  | pending _ verdict =>
    simp [Exchange.accepts, Exchange.noticeVerdict?, verdict, Closing.isSettlement]
  | accepted _ verdict =>
    simp [Exchange.accepts, Exchange.noticeVerdict?, verdict, Closing.isSettlement]
  | refused _ verdict inquiries =>
    rw [List.any_cons, List.any_cons, any_accepts_of_isInquiry inquiries]
    rcases verdict with verdict | verdict <;>
      simp [Exchange.accepts, Exchange.noticeVerdict?, verdict, Closing.isSettlement]

/-- A job that stops while it closes published nothing but the order of a settlement whose last call
fails. -/
theorem Closes.published_of_stop (closes : job.Closes manner settings before closing)
    (way : closing.Way after (.stop reason)) :
    published (before ++ after) =
      (unsettled? (before ++ after)).toList.map (Message.ofOrder settings.notifyTopic) := by
  have nothing : before.filterMap Exchange.published? = [] :=
    (idle_of_isReading closes.isReading).unpublished
  unfold published unsettled?
  rw [List.filterMap_append, nothing, List.nil_append, List.any_append, closes.any_accepts,
    List.getLast?_append]
  cases way with
  | notInserted => rfl
  | notUpdated => rfl
  | notPublished => rfl
  | notSettled => cases closes with | accepted => rfl

/-- **A path that stops** wrote and announced nothing, and published nothing but the order of a
settlement whose last call fails. -/
theorem Course.of_stop (course : job.Course manner settings heard (.stop reason)) :
    (∀ exchange ∈ heard, exchange.written? = none) ∧
      (∀ exchange ∈ heard, exchange.announces = false) ∧
      published heard =
        (unsettled? heard).toList.map (Message.ofOrder settings.notifyTopic) := by
  cases course with
  | reading asked =>
    have idle := idle_of_isReading asked
    refine ⟨idle.unwritten, idle.unannounced, ?_⟩
    have last : heard.getLast?.bind Exchange.refused? = none := by
      rw [Option.bind_eq_none_iff]
      rintro ⟨question, answer⟩ isLast
      have reading := asked _ (List.mem_of_getLast? isLast)
      cases question with
      | update => cases reading
      | _ => rfl
    rw [idle.unpublished, unsettled?, last]
    simp
  | closing closes way =>
    have idle := idle_of_isReading closes.isReading
    obtain ⟨unwritten, unannounced⟩ := way.unwritten_of_stop
    exact ⟨List.forall_mem_append.mpr ⟨idle.unwritten, unwritten⟩,
      List.forall_mem_append.mpr ⟨idle.unannounced, unannounced⟩, closes.published_of_stop way⟩

/-- A job hears that nothing is decided only if it closes without doing anything. -/
theorem Closes.eq_give_of_pending (closes : job.Closes manner settings before closing)
    (pending : ∃ exchange ∈ before, exchange.noticeVerdict? = some .pending) :
    ∃ value, closing = .give value := by
  obtain ⟨exchange, member, isPending⟩ := pending
  have unasked : ∀ {asked : List Exchange}, (∀ exchange ∈ asked, exchange.question.isInquiry) →
      exchange ∉ asked := by
    intro asked inquiries inside
    rw [noticeVerdict?_of_isInquiry inquiries exchange inside] at isPending
    cases isPending
  cases closes with
  | known => exact ⟨_, rfl⟩
  | pending => exact ⟨_, rfl⟩
  | placing inquiries => exact absurd member (unasked inquiries)
  | paying _ inquiries =>
    rcases List.mem_append.mp member with first | last
    · rcases List.mem_cons.mp first with rfl | inside
      · cases isPending
      · exact absurd inside (unasked inquiries)
    · simp only [List.mem_cons, List.not_mem_nil, or_false] at last
      rcases last with rfl | rfl <;> cases isPending
  | accepted _ verdict inquiries | refused _ verdict inquiries =>
    rcases List.mem_cons.mp member with rfl | later
    · cases isPending
    rcases List.mem_cons.mp later with rfl | inside
    · rw [Option.some.inj isPending] at verdict
      simp at verdict
    · exact absurd inside (unasked inquiries)

/-- **A path on which nothing is decided** has no effect. -/
theorem Course.idle_of_pending (course : job.Course manner settings heard rest)
    (pending : ∃ exchange ∈ heard, exchange.noticeVerdict? = some .pending) : Idle heard := by
  cases course with
  | reading asked => exact idle_of_isReading asked
  | @closing before after _ _ closes way =>
    obtain ⟨exchange, member, isPending⟩ := pending
    have inBefore : exchange ∈ before := by
      rcases List.mem_append.mp member with inBefore | inAfter
      · exact inBefore
      · have silent : exchange.noticeVerdict? = none := way.noticeVerdict?_eq_none exchange inAfter
        rw [silent] at isPending
        cases isPending
    obtain ⟨value, rfl⟩ := closes.eq_give_of_pending ⟨exchange, inBefore, isPending⟩
    cases way with
    | given =>
      rw [List.append_nil]
      exact idle_of_isReading closes.isReading

/-- **A path on which an order is placed** stores that order as a new one, and the hooks hear of it
once. -/
theorem Course.of_placed {request : OrderRequest} {outcome : Outcome}
    {store next : MemoryStore} (steps : store.Steps heard next)
    (course : (place request).Course manner settings heard (.done outcome)) :
    ∃ order, outcome = .placed order ∧ order.status = .new ∧ order.version = 0 ∧
      (∀ stored ∈ store.orders, stored.id ≠ order.id) ∧ next.orders = store.orders ++ [order] ∧
      heard.filterMap Exchange.created? = [order] ∧ published heard = [] := by
  cases course with
  | reading _ reads => cases reads
  | closing closes way =>
    cases closes with
    | @placing _ _ order inquiries drafted =>
      cases way with
      | @inserted _ stored =>
        have idle := idle_of_isReading (forall_isReading inquiries)
        obtain ⟨middle, before, onward⟩ := MemoryStore.steps_append.mp steps
        rw [before.eq_of_unwritten idle.unwritten] at onward
        obtain - | ⟨inserted, further⟩ := onward
        rw [further.eq_of_unwritten (by simp [Exchange.written?])]
        cases inserted with
        | kept unwritten => cases unwritten
        | added absent orders =>
          obtain ⟨isNew, isFirst⟩ := drafted.isNew
          refine ⟨order, rfl, isNew, isFirst, absent, orders, ?_, ?_⟩
          · rw [List.filterMap_append, filterMap_created?_of_isReading (forall_isReading inquiries)]
            rfl
          · rw [published, List.filterMap_append, ← published, idle.unpublished]
            rfl

end Job

/-- **The effects of a job.** At every store, for every request and however everybody else behaves:

* a job that fails leaves the store as it is and tells the hooks nothing, and it published nothing
  but the order of a settlement whose last call, its own update, failed;
* a job whose handler says that nothing is decided about a notification has no effect at all;
* a job that places an order adds it to the store as new and at version zero, and the hooks hear of
  it once. -/
theorem job_effects (settings : Settings) (behaviour : Behaviour) (job : Job)
    (store : MemoryStore) :
    let done := (job.flow settings).perform behaviour { store }
    (∀ reason, done.1 = .error reason → done.2.store = store ∧
      (∀ exchange ∈ done.2.heard, exchange.announces = false) ∧
      published done.2.heard =
        (unsettled? done.2.heard).toList.map (Message.ofOrder settings.notifyTopic)) ∧
    ((∃ exchange ∈ done.2.heard, exchange.noticeVerdict? = some .pending) →
      done.2.store = store ∧ (∀ exchange ∈ done.2.heard, exchange.announces = false) ∧
      published done.2.heard = []) ∧
    ∀ request outcome, job = .place request → done.1 = .ok outcome →
      ∃ order, outcome = .placed order ∧ order.status = .new ∧ order.version = 0 ∧
        (∀ stored ∈ store.orders, stored.id ≠ order.id) ∧
        done.2.store.orders = store.orders ++ [order] ∧
        done.2.heard.filterMap Exchange.created? = [order] ∧ published done.2.heard = [] := by
  intro done
  obtain ⟨heard, same, path, steps⟩ := (job.flow settings).perform_spec behaviour { store }
  have course : job.Course .any settings heard (Flow.ended done.1) :=
    Job.course path (Manner.any_of_mem heard)
  change done.2.heard = [] ++ heard at same
  change store.Steps heard done.2.store at steps
  rw [List.nil_append] at same
  rw [same]
  refine ⟨fun reason failed => ?_, fun pending => ?_, fun request outcome isPlace placed => ?_⟩
  · rw [failed] at course
    obtain ⟨unwritten, unannounced, onlyUnsettled⟩ := course.of_stop
    exact ⟨steps.eq_of_unwritten unwritten, unannounced, onlyUnsettled⟩
  · have idle := course.idle_of_pending pending
    exact ⟨steps.eq_of_unwritten idle.unwritten, idle.unannounced, idle.unpublished⟩
  · rw [placed, isPlace] at course
    exact course.of_placed steps

end Paydesk
