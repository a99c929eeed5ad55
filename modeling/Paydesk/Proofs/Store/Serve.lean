/-
**What one exchange does to the store in memory.**

Every call of a flow is answered at once: the store in memory answers what is asked of a store,
unless the call fails, and everything else is answered from outside.

* `MemoryStore.serve`: the answer to one call, and the store after it;
* `MemoryStore.Step`, `step_serve`: **all that an exchange does** — nothing, one more order, or an
  order in place of the one whose version it was changed from;
* `World.answer_eq_serve`: a world at work answers in this way;
* `MemoryStore.Knows`: the store holds a document, or a later version of it. What a store gave out
  it knows (`Step.knows_document`), and what it knows it never forgets (`Step.knows`), so a version
  names one document for ever (`Knows.eq_of_version`).
-/

import Mathlib.Data.List.Nodup
import Paydesk.Desk.World
import Paydesk.Proofs.Flow.Course
import Paydesk.Store.Memory

namespace Paydesk

/-! ### Exchanges with a store -/

namespace Exchange

/-- The order that an exchange writes. -/
def written? : Exchange → Option Order
  | ⟨.insert _, .ok stored⟩ => some stored
  | ⟨.update _, .ok stored⟩ => some stored
  | _ => none

/-- The order that a store gives out in an exchange. -/
def document? : Exchange → Option Order
  | ⟨.fetch _, .ok found⟩ => found
  | ⟨.fetchByClientId _ _, .ok found⟩ => found
  | exchange => exchange.written?

end Exchange

namespace MemoryStore

/-- An answer and the store after it. -/
def keep (store : MemoryStore) :
    Except StoreError (Order × MemoryStore) → Except StoreError Order × MemoryStore
  | .ok (order, after) => (.ok order, after)
  | .error error => (.error error, store)

/-- The answer to a call and the store after it; a call fails if it does so from outside. -/
def serve (store : MemoryStore) :
    (question : Call) → question.Answer → question.Answer × MemoryStore
  | .fetch id, said => (said.map fun _ => store.fetch id, store)
  | .fetchByClientId projectId clientId, said =>
    (said.map fun _ => store.fetchByClientId projectId clientId, store)
  | .insert order, said => store.keep (said.bind fun _ => store.insert order)
  | .update order, said => store.keep (said.bind fun _ => store.update order)
  | _, said => (said, store)

/-- **What an exchange does.** -/
inductive Step (store : MemoryStore) : Exchange → MemoryStore → Prop where
  | kept {exchange : Exchange} (unwritten : exchange.written? = none)
      (shown : ∀ document ∈ exchange.document?, document ∈ store.orders) :
      Step store exchange store
  | added {order : Order} {after : MemoryStore}
      (absent : ∀ stored ∈ store.orders, stored.id ≠ order.id)
      (orders : after.orders = store.orders ++ [order]) :
      Step store ⟨.insert order, .ok order⟩ after
  | changed {base order next : Order} (member : base ∈ store.orders) (sameId : base.id = order.id)
      (sameVersion : base.version = order.version) (counted : order.nextVersion = .ok next) :
      Step store ⟨.update order, .ok next⟩ (store.replace next)

variable {store after : MemoryStore} {exchange : Exchange} {document : Order}

/-! ### Orders by id -/

theorem fetch_eq_none_iff {id : String} :
    store.fetch id = none ↔ ∀ order ∈ store.orders, order.id ≠ id :=
  orderOf?_eq_none_iff

/-- Two orders of a store with one id are one order. -/
theorem eq_of_id {first second : Order} (firstIn : first ∈ store.orders)
    (secondIn : second ∈ store.orders) (same : first.id = second.id) : first = second :=
  List.inj_on_of_nodup_map store.distinct firstIn secondIn same

theorem fetch_eq_some_iff {id : String} :
    store.fetch id = some document ↔ document ∈ store.orders ∧ document.id = id := by
  constructor
  · intro found
    refine ⟨List.mem_of_find?_eq_some found, ?_⟩
    simpa using List.find?_some found
  · rintro ⟨member, rfl⟩
    cases found : store.fetch document.id with
    | none => exact absurd rfl (fetch_eq_none_iff.mp found document member)
    | some other =>
      have otherIn : other ∈ store.orders := List.mem_of_find?_eq_some found
      have same : other.id = document.id := by simpa using List.find?_some found
      rw [eq_of_id otherIn member same]

theorem mem_of_fetchByClientId {projectId clientId : String}
    (found : store.fetchByClientId projectId clientId = some document) :
    document ∈ store.orders :=
  List.mem_of_find?_eq_some found

/-- The orders after one was replaced. -/
theorem mem_replace {order : Order} :
    document ∈ (store.replace order).orders ↔
      (document ∈ store.orders ∧ document.id ≠ order.id) ∨
        (document = order ∧ ∃ stored ∈ store.orders, stored.id = order.id) := by
  simp only [replace, replaceOrder, List.mem_map, beq_iff_eq]
  constructor
  · rintro ⟨stored, member, rfl⟩
    by_cases same : stored.id = order.id
    · rw [if_pos same]
      exact Or.inr ⟨rfl, stored, member, same⟩
    · rw [if_neg same]
      exact Or.inl ⟨member, same⟩
  · rintro (⟨member, differs⟩ | ⟨rfl, stored, member, same⟩)
    · exact ⟨document, member, if_neg differs⟩
    · exact ⟨stored, member, if_pos same⟩

end MemoryStore

/-! ### Versions -/

/-- The version after a version is the next number. -/
theorem Order.nextVersion_eq_ok {order next : Order} (counted : order.nextVersion = .ok next) :
    next = { order with version := next.version } ∧
      next.version.toInt = order.version.toInt + 1 := by
  unfold Order.nextVersion at counted
  split at counted
  · cases counted
  · rename_i notLast
    obtain rfl := Except.ok.inj counted
    refine ⟨rfl, ?_⟩
    have below : order.version.toInt ≠ Int64.maxValue.toInt := fun same =>
      notLast (Int64.toInt_inj.mp same)
    have last : Int64.maxValue.toInt = 2 ^ 63 - 1 := by decide
    have upper := order.version.toInt_lt
    have lower := order.version.le_toInt
    have one : (1 : Int64).toInt = 1 := by decide
    show (order.version + 1).toInt = order.version.toInt + 1
    rw [Int64.toInt_add, one, Int.bmod_eq_of_le] <;> omega

namespace MemoryStore

variable {store after : MemoryStore} {exchange : Exchange} {document : Order}

/-! ### Steps -/

theorem insert_eq_ok {order stored : Order} (taken : store.insert order = .ok (stored, after)) :
    stored = order ∧ (∀ other ∈ store.orders, other.id ≠ order.id) ∧
      after.orders = store.orders ++ [order] := by
  unfold insert at taken
  split at taken
  · cases taken
  · rename_i absent
    obtain ⟨rfl, rfl⟩ := Prod.mk.inj (Except.ok.inj taken)
    exact ⟨rfl, fetch_eq_none_iff.mp absent, rfl⟩

theorem update_eq_ok {order next : Order} (taken : store.update order = .ok (next, after)) :
    ∃ base ∈ store.orders, base.id = order.id ∧ base.version = order.version ∧
      order.nextVersion = .ok next ∧ after = store.replace next := by
  unfold update at taken
  split at taken
  · cases taken
  · rename_i base found
    obtain ⟨member, sameId⟩ := fetch_eq_some_iff.mp found
    split at taken
    · rename_i sameVersion
      cases counted : order.nextVersion with
      | error overflow =>
        rw [counted] at taken
        cases taken
      | ok version =>
        rw [counted] at taken
        obtain ⟨rfl, rfl⟩ := Prod.mk.inj (Except.ok.inj taken)
        exact ⟨base, member, sameId, sameVersion, rfl, rfl⟩
    · cases taken

theorem step_insert (order : Order) (said : Except StoreError Order) :
    store.Step ⟨.insert order, (store.serve (.insert order) said).1⟩
      (store.serve (.insert order) said).2 := by
  rcases said with error | confirmed
  · exact .kept rfl fun document shown => nomatch shown
  show store.Step ⟨.insert order, (store.keep (store.insert order)).1⟩
    (store.keep (store.insert order)).2
  rcases taken : store.insert order with error | ⟨stored, after⟩
  · exact .kept rfl fun document shown => nomatch shown
  · obtain ⟨rfl, absent, orders⟩ := insert_eq_ok taken
    exact .added absent orders

theorem step_update (order : Order) (said : Except StoreError Order) :
    store.Step ⟨.update order, (store.serve (.update order) said).1⟩
      (store.serve (.update order) said).2 := by
  rcases said with error | confirmed
  · exact .kept rfl fun document shown => nomatch shown
  show store.Step ⟨.update order, (store.keep (store.update order)).1⟩
    (store.keep (store.update order)).2
  rcases taken : store.update order with error | ⟨next, after⟩
  · exact .kept rfl fun document shown => nomatch shown
  · obtain ⟨base, member, sameId, sameVersion, counted, rfl⟩ := update_eq_ok taken
    exact .changed member sameId sameVersion counted

/-- **Every answered call is a step of the store.** -/
theorem step_serve (store : MemoryStore) (question : Call) (said : question.Answer) :
    store.Step ⟨question, (store.serve question said).1⟩ (store.serve question said).2 := by
  cases question with
  | fetch id =>
    rcases said with error | found
    · exact .kept rfl fun document shown => nomatch shown
    · exact .kept rfl fun document shown => (fetch_eq_some_iff.mp shown).1
  | fetchByClientId projectId clientId =>
    rcases said with error | found
    · exact .kept rfl fun document shown => nomatch shown
    · exact .kept rfl fun document shown => mem_of_fetchByClientId shown
  | insert order => exact step_insert order said
  | update order => exact step_update order said
  | _ => exact .kept rfl fun document shown => nomatch shown

theorem step_of_serve {question : Call} {said answer : question.Answer}
    (served : store.serve question said = (answer, after)) :
    store.Step ⟨question, answer⟩ after := by
  have step := store.step_serve question said
  rwa [served] at step

end MemoryStore

/-! ### The world at work -/

namespace World

/-- A change of the store, as a world makes it. -/
theorem run_keep (result : Except StoreError (Order × MemoryStore)) (world : World MemoryStore) :
    (((World.keep result).run world).1, ((World.keep result).run world).2.store) =
      world.store.keep (((World.keep result).run world).1.bind fun _ => result) := by
  rcases result with error | ⟨order, after⟩
  · rfl
  · rfl

/-- A message leaves the store as it is. -/
theorem run_publish (message : Message) (world : World MemoryStore) :
    ((World.publish message).run world).2.store = world.store := by
  cases delivered : world.broker.deliver message with
  | error error =>
    simp only [World.publish, StateT.run_bind, StateT.run_get, pure_bind, delivered]
    rfl
  | ok broker =>
    simp only [World.publish, StateT.run_bind, StateT.run_get, pure_bind, delivered]
    rfl

/-- **A world with the store in memory** answers as `MemoryStore.serve` says. -/
theorem answer_eq_serve (now : Instant) (freshId : String) (question : Call)
    (world : World MemoryStore) :
    (((World.answer now freshId question).run world).1,
        ((World.answer now freshId question).run world).2.store) =
      world.store.serve question ((World.answer now freshId question).run world).1 := by
  cases question with
  | insert order => exact run_keep (world.store.insert order) world
  | update order => exact run_keep (world.store.update order) world
  | publish message => exact congrArg (Prod.mk _) (run_publish message world)
  | _ => rfl

end World

namespace MemoryStore

variable {store after : MemoryStore} {exchange : Exchange} {document : Order}

/-! ### What a store knows -/

/-- A store holds a document or a later version of it. -/
def Knows (store : MemoryStore) (document : Order) : Prop :=
  ∃ current ∈ store.orders, current.id = document.id ∧
    document.version.toInt ≤ current.version.toInt ∧
      (current.version = document.version → current = document)

theorem knows_of_mem (member : document ∈ store.orders) : store.Knows document :=
  ⟨document, member, rfl, Int.le_refl _, fun _ => rfl⟩

/-- A stored order that has the id and the version of a known document is that document. -/
theorem Knows.eq_of_version (known : store.Knows document) {stored : Order}
    (member : stored ∈ store.orders) (sameId : stored.id = document.id)
    (sameVersion : stored.version = document.version) : stored = document := by
  obtain ⟨current, currentIn, currentId, -, same⟩ := known
  have isCurrent : stored = current := eq_of_id member currentIn (sameId.trans currentId.symm)
  subst isCurrent
  exact same sameVersion

/-- What a store gives out it holds. -/
theorem Step.mem_orders (step : store.Step exchange after)
    (shown : document ∈ exchange.document?) : document ∈ after.orders := by
  cases step with
  | kept _ inside => exact inside document shown
  | @added order _ _ orders =>
    obtain rfl : order = document := by simpa [Exchange.document?, Exchange.written?] using shown
    rw [orders]
    exact List.mem_append_right _ (List.mem_singleton_self _)
  | @changed base order next member sameId _ counted =>
    obtain rfl : next = document := by simpa [Exchange.document?, Exchange.written?] using shown
    have nextId : next.id = order.id := by rw [(Order.nextVersion_eq_ok counted).1]
    exact mem_replace.mpr (Or.inr ⟨rfl, base, member, sameId.trans nextId.symm⟩)

/-- **What a store gives out it knows.** -/
theorem Step.knows_document (step : store.Step exchange after)
    (shown : document ∈ exchange.document?) : after.Knows document :=
  knows_of_mem (step.mem_orders shown)

/-- **What a store knows it never forgets.** -/
theorem Step.knows (step : store.Step exchange after) (known : store.Knows document) :
    after.Knows document := by
  obtain ⟨current, currentIn, currentId, atLeast, same⟩ := known
  cases step with
  | kept => exact ⟨current, currentIn, currentId, atLeast, same⟩
  | added _ orders =>
    refine ⟨current, ?_, currentId, atLeast, same⟩
    rw [orders]
    exact List.mem_append_left _ currentIn
  | @changed base order next member sameId sameVersion counted =>
    obtain ⟨shape, later⟩ := Order.nextVersion_eq_ok counted
    have nextId : next.id = order.id := by rw [shape]
    by_cases touched : current.id = next.id
    · have isBase : current = base :=
        eq_of_id currentIn member (touched.trans (nextId.trans sameId.symm))
      have newer : document.version.toInt < next.version.toInt := by
        rw [later, ← sameVersion, ← isBase]
        omega
      refine ⟨next, mem_replace.mpr (Or.inr ⟨rfl, current, currentIn, touched⟩), ?_, ?_, ?_⟩
      · exact touched.symm.trans currentId
      · omega
      · intro equal
        rw [equal] at newer
        omega
    · exact ⟨current, mem_replace.mpr (Or.inl ⟨currentIn, touched⟩), currentId, atLeast, same⟩

end MemoryStore

end Paydesk
