/-
**The life of an order among many jobs.**

The status guard of a job is read when its order is fetched and not looked at again when the order
is stored. It holds all the same: the store takes a change only while the version is still the one
that was fetched, and a version names one document for ever, so the order that is replaced is the
order that was guarded.

* `Step.effect`: **all that an action of jobs does** to the orders of the store — none is changed,
  or one that is still open moves at most one step on;
* `Effect.moves_on`, `Effect.stays`: what becomes of one order, and of one that is settled for good;
* `Settled`, `settled_run`: an order is stored as settled at most once;
* `order_life`: the three guarantees for every interleaving.
-/

import Paydesk.Proofs.Flow.Succession
import Paydesk.Proofs.Office.Basic

namespace Paydesk

namespace Office

variable {settings : Settings} {office after : Office (Job.flow settings)} {action : Action Job}
  {order : Order}

/-! ### The effect of an action -/

/-- **What an action of jobs does** to the orders of the store. -/
inductive Effect (office after : Office (Job.flow settings)) : Prop where
  | keeps (orders : ∀ order ∈ office.store.orders, order ∈ after.store.orders)
      (settlements : ∀ id, after.heard.countP (Exchange.settles id) =
        office.heard.countP (Exchange.settles id))
  | moves {base written next : Order} (baseIn : base ∈ office.store.orders)
      (follows : base.Follows written) (counted : written.nextVersion = .ok next)
      (replaced : after.store = office.store.replace next)
      (heard : after.heard.Perm (⟨.update written, .ok next⟩ :: office.heard))

/-- The stored order that an update replaces is one that it follows: it is the fetched one. -/
theorem follows_of_replaced (informed : office.Informed) {task : Task (Job.flow settings)}
    (member : task ∈ office.tasks) {next : Except StoreError Order → Flow Outcome}
    (waits : task.rest = .call (.update order) next) {base : Order}
    (baseIn : base ∈ office.store.orders) (sameId : base.id = order.id)
    (sameVersion : base.version = order.version) : base.Follows order := by
  have path := task.path
  rw [waits] at path
  obtain ⟨id, fetched, wasFetched, follows⟩ := Job.follows_of_update path
  have given : fetched ∈ documents task.heard := mem_documents.mpr ⟨_, wasFetched, rfl⟩
  have known := informed fetched (mem_documents_of_mem member given)
  have isFetched : base = fetched :=
    known.eq_of_version baseIn (sameId.trans follows.sameId)
      (sameVersion.trans follows.sameVersion)
  rwa [isFetched]

/-- An exchange that stores nothing in place of another settles nothing. -/
theorem countP_settles_of_perm {exchange : Exchange}
    (heard : after.heard.Perm (exchange :: office.heard))
    (unsettled : ∀ id, exchange.settles id = false) (id : String) :
    after.heard.countP (Exchange.settles id) = office.heard.countP (Exchange.settles id) := by
  rw [heard.countP_eq, List.countP_cons, unsettled id]
  rfl

theorem settles_of_unwritten {exchange : Exchange} (unwritten : exchange.written? = none)
    (id : String) : exchange.settles id = false := by
  obtain ⟨question, answer⟩ := exchange
  cases question with
  | update written =>
    rcases answer with error | stored
    · rfl
    · cases unwritten
  | _ => rfl

theorem Step.effect (step : office.Step action after) (informed : office.Informed) :
    office.Effect after := by
  cases step with
  | quiet sameStore sameHeard =>
    exact .keeps (fun order member => sameStore ▸ member) (fun id => by rw [sameHeard])
  | @exchange _ _ _ task question next answer member waits served heard =>
    generalize asked : (⟨question, answer⟩ : Exchange) = exchange at heard
    have storeStep := MemoryStore.step_of_serve served
    rw [asked] at storeStep
    generalize stored : after.store = store at storeStep
    cases storeStep with
    | kept unwritten =>
      refine .keeps (fun order inside => ?_) ?_
      · rwa [stored]
      · exact countP_settles_of_perm heard (settles_of_unwritten unwritten)
    | added _ orders =>
      refine .keeps (fun order inside => ?_) ?_
      · rw [stored, orders]
        exact List.mem_append_left _ inside
      · exact countP_settles_of_perm heard fun id => rfl
    | @changed base written result baseIn sameId sameVersion counted =>
      cases asked
      have follows := follows_of_replaced informed member waits baseIn sameId sameVersion
      exact .moves baseIn follows counted stored heard

theorem informed_act (informed : office.Informed) (action : Action Job) :
    (office.act action).Informed :=
  (office.step_act action).informed informed

theorem effect_act (informed : office.Informed) (action : Action Job) :
    office.Effect (office.act action) :=
  (office.step_act action).effect informed

/-! ### One order -/

/-- **One order in one action**: it is kept, or it was open and moves at most one step on. -/
theorem Effect.moves_on (effect : office.Effect after) (member : order ∈ office.store.orders) :
    order ∈ after.store.orders ∨ order.status.isFinal = false ∧
      ∃ next ∈ after.store.orders, next.id = order.id ∧
        (next.status = order.status ∨ order.status.canBecome next.status) := by
  cases effect with
  | keeps orders => exact Or.inl (orders order member)
  | @moves base written next baseIn follows counted replaced =>
    have shape := (Order.nextVersion_eq_ok counted).1
    have nextId : next.id = base.id := by rw [shape]; exact follows.sameId
    have nextStatus : next.status = written.status := by rw [shape]
    rw [replaced]
    by_cases touched : order.id = next.id
    · have isBase : order = base :=
        MemoryStore.eq_of_id member baseIn (touched.trans nextId)
      refine Or.inr ⟨isBase ▸ follows.wasOpen, next, ?_, touched.symm, ?_⟩
      · exact MemoryStore.mem_replace.mpr (Or.inr ⟨rfl, order, member, touched⟩)
      · rw [nextStatus, isBase]
        exact follows.oneStep
    · exact Or.inl (MemoryStore.mem_replace.mpr (Or.inl ⟨member, touched⟩))

/-- An order that is settled for good stays as it is. -/
theorem Effect.stays (effect : office.Effect after) (member : order ∈ office.store.orders)
    (isFinal : order.status.isFinal) : order ∈ after.store.orders := by
  rcases effect.moves_on member with kept | ⟨wasOpen, -⟩
  · exact kept
  · rw [isFinal] at wasOpen
    cases wasOpen

/-- **An order that is settled for good** stays as it is in every run. -/
theorem stays_run (informed : office.Informed) (member : order ∈ office.store.orders)
    (isFinal : order.status.isFinal) (later : List (Action Job)) :
    order ∈ (office.run later).store.orders :=
  (induction (fun office => office.Informed ∧ order ∈ office.store.orders) ⟨informed, member⟩
    fun _ action _ before =>
      ⟨informed_act before.1 action, (effect_act before.1 action).stays before.2 isFinal⟩).2

/-! ### Settlements -/

/-- An order is stored as settled at most once, and is then in the store. -/
def Settled (office : Office (Job.flow settings)) (id : String) : Prop :=
  office.heard.countP (Exchange.settles id) = 0 ∨
    office.heard.countP (Exchange.settles id) = 1 ∧
      ∃ order ∈ office.store.orders, order.id = id ∧ order.status.isFinal

theorem Effect.settled {id : String} (effect : office.Effect after) (settled : office.Settled id) :
    after.Settled id := by
  cases effect with
  | keeps orders settlements =>
    unfold Settled
    rw [settlements id]
    refine settled.imp_right fun once => ⟨once.1, ?_⟩
    obtain ⟨order, member, sameId, isFinal⟩ := once.2
    exact ⟨order, orders order member, sameId, isFinal⟩
  | @moves base written next baseIn follows counted replaced heard =>
    have shape := (Order.nextVersion_eq_ok counted).1
    have nextId : next.id = base.id := by rw [shape]; exact follows.sameId
    have count : after.heard.countP (Exchange.settles id) =
        office.heard.countP (Exchange.settles id) +
          if (next.id == id && next.status.isFinal) = true then 1 else 0 := by
      rw [heard.countP_eq, List.countP_cons]
      rfl
    unfold Settled
    by_cases settles : (next.id == id && next.status.isFinal) = true
    · rw [if_pos settles] at count
      simp only [Bool.and_eq_true, beq_iff_eq] at settles
      rcases settled with never | ⟨-, order, member, sameId, isFinal⟩
      · refine Or.inr ⟨by rw [count, never], next, ?_, settles.1, settles.2⟩
        rw [replaced]
        exact MemoryStore.mem_replace.mpr (Or.inr ⟨rfl, base, baseIn, nextId.symm⟩)
      · have isBase : order = base :=
          MemoryStore.eq_of_id member baseIn (sameId.trans (settles.1.symm.trans nextId))
        rw [isBase, follows.wasOpen] at isFinal
        cases isFinal
    · rw [if_neg settles, Nat.add_zero] at count
      rw [count]
      refine settled.imp_right fun once => ⟨once.1, ?_⟩
      obtain ⟨order, member, sameId, isFinal⟩ := once.2
      have effect := Effect.moves baseIn follows counted replaced heard
      exact ⟨order, effect.stays member isFinal, sameId, isFinal⟩

/-- **An order is stored as settled** at most once in a run. -/
theorem settled_run (settings : Settings) (store : MemoryStore) (actions : List (Action Job))
    (id : String) : ((opened (Job.flow settings) store).run actions).Settled id :=
  (induction (fun office => office.Informed ∧ office.Settled id)
    ⟨informed_run store [], Or.inl rfl⟩ fun _ action _ before =>
      ⟨informed_act before.1 action, (effect_act before.1 action).settled before.2⟩).2

theorem countP_flatMap_announcesFinal_le (tasks : List (Task (Job.flow settings))) (id : String) :
    (tasks.flatMap (·.heard)).countP (Exchange.announcesFinal id) ≤
      (tasks.flatMap (·.heard)).countP (Exchange.settles id) := by
  induction tasks with
  | nil => exact Nat.le_refl _
  | cons task rest ih =>
    rw [List.flatMap_cons, List.countP_append, List.countP_append]
    exact Nat.add_le_add (Job.countP_announcesFinal_le task.path id) ih

/-! ### The three guarantees -/

/-- **The life of an order.** However any number of jobs on one store are interleaved and whatever
their handlers answer:

* a stored order is only followed by an order of the same id whose status is the same or one step
  on;
* an order that is settled for good never changes again, and a notification that fetches it asks no
  handler, publishes nothing and is done with that order;
* the hooks hear at most once that an order was settled for good. -/
theorem order_life (settings : Settings) (store : MemoryStore) (actions : List (Action Job)) :
    let office := (opened (Job.flow settings) store).run actions
    (∀ action, ∀ order ∈ office.store.orders, ∃ next ∈ (office.act action).store.orders,
      next.id = order.id ∧
        (next.status = order.status ∨ order.status.canBecome next.status)) ∧
    (∀ order ∈ office.store.orders, order.status.isFinal →
      ∀ later, order ∈ (office.run later).store.orders) ∧
    (∀ task ∈ office.tasks, ∀ notification provider order,
      task.job = .notify notification provider →
      task.heard.head? = some ⟨.fetch notification.orderId, .ok (some order)⟩ →
      order.status.isFinal →
        task.heard = [⟨.fetch notification.orderId, .ok (some order)⟩] ∧
          ∃ message, task.rest = .done (.noticed (.alreadyProcessed order message))) ∧
    ∀ id, office.heard.countP (Exchange.announcesFinal id) ≤ 1 := by
  intro office
  have informed : office.Informed := informed_run store actions
  refine ⟨fun action order member => ?_, fun order member isFinal later => ?_, ?_, fun id => ?_⟩
  · rcases (effect_act informed action).moves_on member with kept | ⟨-, moved⟩
    · exact ⟨order, kept, rfl, Or.inl rfl⟩
    · exact moved
  · exact stays_run informed member isFinal later
  · rintro ⟨job, heard, rest, path⟩ - notification provider order rfl first isFinal
    obtain ⟨later, rfl⟩ := List.head?_eq_some_iff.mp first
    obtain ⟨rfl, done⟩ := Job.settled_of_fetch isFinal path
    exact ⟨rfl, done⟩
  · refine Nat.le_trans (countP_flatMap_announcesFinal_le office.tasks id) ?_
    rcases settled_run settings store actions id with never | ⟨once, -⟩
    · exact Nat.le_trans (Nat.le_of_eq never) (Nat.zero_le 1)
    · exact Nat.le_of_eq once

end Office

end Paydesk
