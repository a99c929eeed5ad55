/-
**The merchant's own ids.**

A request that names its order by an id of the merchant's own is checked against the store, and its
order is added some calls later. While requests are placed one after another no project has two
orders of one client id. The store itself does not look at client ids, so two requests that both ask
before either has added its order are both placed.

* `MemoryStore.UniqueClientIds`: no project has two orders of one client id;
* `MemoryStore.uniqueClientIds_place`: **one request placed alone** keeps that so;
* `uniqueClientIds_placeAll`: client ids stay unique while requests are placed one after another;
* `not_uniqueClientIds_race`: two requests whose calls take turns are both placed.
-/

import Paydesk.Proofs.Flow.Failure
import Paydesk.Proofs.Office.Price

namespace Paydesk

open Paydesk.Flow

/-- No closing inquires. -/
theorem Closing.Way.isInquiry_eq_false {α : Type} {closing : Closing α} {heard : List Exchange}
    {rest : Flow α} (way : closing.Way heard rest) :
    ∀ exchange ∈ heard, exchange.question.isInquiry = false := by
  cases way <;> simp [Call.isInquiry, Call.isLookup]

namespace MemoryStore

/-- No project has two orders of one client id that is not empty. -/
def UniqueClientIds (store : MemoryStore) : Prop :=
  ∀ first ∈ store.orders, ∀ second ∈ store.orders, first.project.id = second.project.id →
    first.projectOrderId = second.projectOrderId → first.projectOrderId.any (· != "") →
      first = second

variable {store after : MemoryStore} {order : Order} {heard : List Exchange}

theorem fetchByClientId_eq_none_iff {projectId clientId : String} :
    store.fetchByClientId projectId clientId = none ↔
      ∀ order ∈ store.orders, order.project.id = projectId →
        order.projectOrderId ≠ some clientId := by
  simp [fetchByClientId, List.find?_eq_none]

/-- **An order whose client id is new** to its project leaves client ids unique. -/
theorem UniqueClientIds.append (unique : store.UniqueClientIds)
    (orders : after.orders = store.orders ++ [order])
    (isNew : ∀ clientId ∈ order.projectOrderId,
      store.fetchByClientId order.project.id clientId = none) : after.UniqueClientIds := by
  have apart : ∀ other ∈ store.orders, other.project.id = order.project.id →
      other.projectOrderId = order.projectOrderId → order.projectOrderId.any (· != "") = false := by
    intro other member sameProject sameId
    cases named : order.projectOrderId with
    | none => rfl
    | some clientId =>
      rw [named] at sameId
      exact absurd sameId
        (fetchByClientId_eq_none_iff.mp (isNew clientId named) other member sameProject)
  intro first firstIn second secondIn sameProject sameId isNamed
  rw [orders, List.mem_append, List.mem_singleton] at firstIn secondIn
  rcases firstIn with firstIn | rfl
  · rcases secondIn with secondIn | rfl
    · exact unique first firstIn second secondIn sameProject sameId isNamed
    · rw [sameId, apart first firstIn sameProject sameId] at isNamed
      cases isNamed
  · rcases secondIn with secondIn | rfl
    · rw [apart second secondIn sameProject.symm sameId.symm] at isNamed
      cases isNamed
    · rfl

/-- While nothing is written, the store answers for what it has. -/
theorem Serves.fetchByClientId_eq {projectId clientId : String}
    (serves : store.Serves heard after)
    (reading : ∀ exchange ∈ heard, exchange.question.isReading)
    (told : ⟨.fetchByClientId projectId clientId, .ok none⟩ ∈ heard) :
    store.fetchByClientId projectId clientId = none := by
  induction serves with
  | here => cases told
  | @on store next after question said answer later served further ih =>
    rw [List.forall_mem_cons] at reading
    rcases List.mem_cons.mp told with same | inLater
    · cases same
      rcases said with error | found
      · cases congrArg Prod.fst served
      · exact Except.ok.inj (congrArg Prod.fst served)
    · have sameStore : next = store :=
        (Steps.on (step_of_serve served) (.here next)).eq_of_unwritten
          (idle_of_isReading (by simpa using reading.1)).unwritten
      rw [← sameStore]
      exact ih reading.2 inLater

theorem serves_append {first second : List Exchange} :
    store.Serves (first ++ second) after ↔
      ∃ middle, store.Serves first middle ∧ middle.Serves second after := by
  induction first generalizing store with
  | nil =>
    constructor
    · exact fun serves => ⟨store, .here store, serves⟩
    · rintro ⟨middle, ⟨⟩, serves⟩
      exact serves
  | cons exchange later ih =>
    constructor
    · rintro (_ | ⟨served, further⟩)
      obtain ⟨middle, before, onward⟩ := ih.mp further
      exact ⟨middle, .on served before, onward⟩
    · rintro ⟨middle, _ | ⟨served, before⟩, onward⟩
      exact .on served (ih.mpr ⟨middle, before, onward⟩)

/-- What the closing of a new order writes is that order, and nothing else is asked of the store. -/
theorem Steps.of_insert {later : List Exchange} {rest : Flow Order}
    (steps : store.Steps later after) (way : (Closing.insert order id).Way later rest) :
    after = store ∨ after.orders = store.orders ++ [order] := by
  have added : ∀ {stored : Order} {tail : List Exchange},
      store.Steps (⟨.insert order, .ok stored⟩ :: tail) after →
        (∀ exchange ∈ tail, exchange.written? = none) →
          after.orders = store.orders ++ [order] := by
    rintro stored tail (_ | ⟨step, further⟩) unwritten
    rw [further.eq_of_unwritten unwritten]
    cases step with
    | kept unwritten => cases unwritten
    | added _ orders => exact orders
  cases way with
  | toInsert => exact Or.inl (steps.eq_of_unwritten (by simp))
  | notInserted => exact Or.inl (steps.eq_of_unwritten (by simp [Exchange.written?]))
  | toAnnounceCreated => exact Or.inr (added steps (by simp))
  | inserted => exact Or.inr (added steps (by simp [Exchange.written?]))

/-- **One request placed alone** leaves client ids unique, whatever everybody else answers. -/
theorem uniqueClientIds_place (settings : Settings) (behaviour : Behaviour)
    (request : OrderRequest) (unique : store.UniqueClientIds) :
    ((request.place settings).perform behaviour { store }).2.store.UniqueClientIds := by
  obtain ⟨heard, -, path, serves⟩ := (request.place settings).perform_serves behaviour { store }
  generalize ((request.place settings).perform behaviour { store }).2.store = after at serves
  generalize ended ((request.place settings).perform behaviour { store }).1 = rest at path
  change store.Serves heard after at serves
  have drafting : (request.draft settings).Yields
      (fun question answer => ⟨question, answer⟩ ∈ heard) _ := OrderRequest.draft_yields_new
  rcases drafting.course path fun exchange member => member with
    ⟨asked, -⟩ | ⟨before, later, order, rfl, asked, ⟨-, isNew⟩, onward⟩
  · have idle := idle_of_isReading (Job.forall_isReading asked)
    rw [serves.steps.eq_of_unwritten idle.unwritten]
    exact unique
  have reading := Job.forall_isReading asked
  obtain ⟨middle, first, last⟩ := serves_append.mp serves
  have same : middle = store := first.steps.eq_of_unwritten (idle_of_isReading reading).unwritten
  subst same
  have way : (Closing.insert order id).Way later rest := Closing.way_of_goes onward
  rcases last.steps.of_insert way with rfl | orders
  · exact unique
  refine unique.append orders fun clientId named => first.fetchByClientId_eq reading ?_
  rcases List.mem_append.mp (isNew clientId named) with inBefore | inLater
  · exact inBefore
  · cases way.isInquiry_eq_false _ inLater

end MemoryStore

/-- A store after some requests were placed one after another, each with a behaviour of everybody
else. -/
def placeAll (settings : Settings) (store : MemoryStore)
    (requests : List (OrderRequest × Behaviour)) : MemoryStore :=
  requests.foldl (fun store (request, behaviour) =>
    ((request.place settings).perform behaviour { store }).2.store) store

/-- **Client ids stay unique** while requests are placed one after another: each project has no more
than one order of a client id, for every sequence of requests and whatever everybody else answers.
-/
theorem uniqueClientIds_placeAll (settings : Settings)
    (requests : List (OrderRequest × Behaviour)) :
    (placeAll settings .empty requests).UniqueClientIds := by
  have onward : ∀ store : MemoryStore, store.UniqueClientIds →
      (placeAll settings store requests).UniqueClientIds := by
    induction requests with
    | nil => exact fun store unique => unique
    | cons first later ih =>
      exact fun store unique =>
        ih _ (MemoryStore.uniqueClientIds_place settings first.2 first.1 unique)
  exact onward .empty fun first member => nomatch member

/-! ### Requests whose calls take turns -/

/-- A request for an order with a client id. -/
def namedRequest : OrderRequest :=
  { projectId := "shop", amount := .ofInt 10, account := "payer", orderId := some "A-1" }

/-- The answers of the card desk, with an id to give away. -/
def cardAnswers (freshId : String) (question : Call) : question.Answer :=
  match question with
  | .newId => freshId
  | question => Office.cardDesk.look question

/-- Two like requests at once: call by call, each is answered as often as the other. -/
def raceRun : List (Action OrderRequest) :=
  [.start namedRequest, .start namedRequest] ++
    (List.replicate 10 [.answer 0 (cardAnswers "first"), .answer 1 (cardAnswers "second")]).flatten

/-- **Requests whose calls take turns** are both placed: both find the client id unknown before
either order is in the store. -/
theorem not_uniqueClientIds_race :
    ¬ ((Office.opened (OrderRequest.place {}) .empty).run raceRun).store.UniqueClientIds := by
  intro unique
  have placed : (((Office.opened (OrderRequest.place {}) .empty).run raceRun).store.orders.map
      fun order => (order.id, order.project.id, order.projectOrderId)) =
        [("first", "shop", some "A-1"), ("second", "shop", some "A-1")] := by
    decide +kernel
  obtain ⟨first, rest, orders, isFirst, more⟩ := List.map_eq_cons_iff.mp placed
  obtain ⟨second, nothing, rfl, isSecond, -⟩ := List.map_eq_cons_iff.mp more
  simp only [Prod.mk.injEq] at isFirst isSecond
  obtain ⟨firstId, firstProject, firstName⟩ := isFirst
  obtain ⟨secondId, secondProject, secondName⟩ := isSecond
  have same : first = second := by
    refine unique first (by simp [orders]) second (by simp [orders]) ?_ ?_ ?_
    · rw [firstProject, secondProject]
    · rw [firstName, secondName]
    · rw [firstName]
      decide
  rw [same, secondId] at firstId
  exact absurd firstId (by decide)

end Paydesk
