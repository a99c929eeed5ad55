/-
**No change is lost.**

Jobs share the store with callers of their own that change documents which the store gave them. A
change names the version that it is based on, and a version names one document for ever, so what a
change replaces is the very document that it was made from. That handlers may hand back orders of
any version does not matter: every job puts the version it fetched back before it writes.

* `Flow.EditsCopies`: a flow only updates edited copies of documents that it was given;
* `Flow.editsCopies_amend`: a caller that stores one edit after another of what it was given last;
* `Visitor`: a job, or a caller of its own whose program does so;
* `eq_of_version_run`: **a version names one document for ever**;
* `no_change_is_lost`: what becomes of an update in every interleaving;
* `remarkRun`: remarks on an order from before and after its payment.
-/

import Paydesk.Proofs.Flow.Succession
import Paydesk.Proofs.Office.Price

namespace Paydesk

/-! ### Flows that edit copies -/

namespace Flow

variable {α β : Type}

/-- **A flow that edits copies.** Whatever it updates has the id and the version of a document that
it was given before. -/
def EditsCopies (flow : Flow α) : Prop :=
  ∀ heard order next, flow.Goes heard (.call (.update order) next) →
    ∃ base ∈ documents heard, base.id = order.id ∧ base.version = order.version

theorem EditsCopies.map {flow : Flow α} (change : α → β) (edits : flow.EditsCopies) :
    EditsCopies (change <$> flow) := by
  intro heard order next path
  obtain ⟨left, own, same⟩ := goes_map.mp path
  cases left with
  | done value => cases same
  | stop reason => cases same
  | call question onward =>
    cases same
    exact edits heard order onward own

/-- Stores an edited copy of a document, an edited copy of what was stored then, and so on. -/
def revise (document : Order) : List (Order → Order) → Flow Unit
  | [] => .done ()
  | edit :: edits => do
    let stored ← .update { edit document with id := document.id, version := document.version }
    revise stored edits

/-- Fetches an order and stores one edit of it after another. -/
def amend (id : String) (edits : List (Order → Order)) : Flow Unit := do
  let document ← .orRefuse .orderNotFound (← .fetch id)
  revise document edits

/-- Every edit is of a document that was given before, by induction on the edits. -/
theorem exists_base_of_revise {edits : List (Order → Order)} {document order : Order}
    {heard : List Exchange} {next : Except StoreError Order → Flow Unit}
    (path : (revise document edits).Goes heard (.call (.update order) next)) :
    ∃ base ∈ document :: documents heard, base.id = order.id ∧ base.version = order.version := by
  induction edits generalizing document heard with
  | nil => cases (goes_done.mp path).2
  | cons edit edits hypothesis =>
    rcases goes_call.mp path with ⟨rfl, same⟩ | ⟨answer, later, rfl, onward⟩
    · cases same
      exact ⟨document, List.mem_cons_self, rfl, rfl⟩
    · cases answer with
      | error reason => cases (goes_stop.mp onward).2
      | ok stored =>
        obtain ⟨base, given, same⟩ := hypothesis onward
        exact ⟨base, List.mem_cons_of_mem _ given, same⟩

/-- **A caller that fetches an order and edits it** edits copies. -/
theorem editsCopies_amend (id : String) (edits : List (Order → Order)) :
    (amend id edits).EditsCopies := by
  intro heard order next path
  rcases goes_fetch path with ⟨-, reads⟩ | ⟨document, later, rfl, onward⟩
  · cases reads with | asking reading => cases reading
  · exact exists_base_of_revise onward

end Flow

/-- Every job edits copies. -/
theorem Job.editsCopies (settings : Settings) (job : Job) : (job.flow settings).EditsCopies := by
  intro heard order next path
  obtain ⟨id, base, fetched, follows⟩ := follows_of_update path
  exact ⟨base, mem_documents.mpr ⟨_, fetched, rfl⟩, follows.sameId.symm, follows.sameVersion.symm⟩

/-! ### Visitors -/

/-- Whoever works with a store: a job, or a caller of its own that edits copies. -/
inductive Visitor where
  | desk (job : Job)
  | direct (program : Flow Unit) (edits : program.EditsCopies)

namespace Visitor

/-- The flow of a visitor. -/
def flow (settings : Settings) : Visitor → Flow Unit
  | desk job => (fun _ => ()) <$> job.flow settings
  | direct program _ => program

theorem editsCopies (settings : Settings) (visitor : Visitor) :
    (visitor.flow settings).EditsCopies := by
  cases visitor with
  | desk job => exact (job.editsCopies settings).map _
  | direct program edits => exact edits

end Visitor

/-! ### Updates -/

namespace Office

section Program

variable {ι α : Type} {program : ι → Flow α} {office : Office program}

/-- **A version names one document for ever.** -/
theorem eq_of_version_run {first second : Order} (firstIn : first ∈ office.store.orders)
    (later : List (Action ι)) (secondIn : second ∈ (office.run later).store.orders)
    (sameId : second.id = first.id) (sameVersion : second.version = first.version) :
    second = first :=
  (knows_run later (MemoryStore.knows_of_mem firstIn)).eq_of_version secondIn sameId sameVersion

/-- The store and the task after the task's call is answered. -/
theorem hear_answer {index : Nat} {task : Task program} {question : Call}
    {next : question.Answer → Flow α} (found : office.tasks[index]? = some task)
    (waits : task.rest = .call question next) (said : (question : Call) → question.Answer) :
    (office.act (.answer index said)).store = (office.store.serve question (said question)).2 ∧
      ∃ after, (office.act (.answer index said)).tasks[index]? = some after ∧
        after.heard =
          task.heard ++ [⟨question, (office.store.serve question (said question)).1⟩] := by
  obtain ⟨inside, -⟩ := List.getElem?_eq_some_iff.mp found
  rw [act_answer office found said]
  obtain ⟨job, heard, rest, path⟩ := task
  obtain rfl : rest = .call question next := waits
  exact ⟨rfl, _, List.getElem?_set_self inside, rfl⟩

/-- **An update in an office** of flows that edit copies: it is refused and changes nothing, or the
order that it replaces is the document that it was made from. -/
theorem update_replaces_base (edits : ∀ job, (program job).EditsCopies)
    (informed : office.Informed) {task : Task program} (member : task ∈ office.tasks)
    {order : Order} {next : Except StoreError Order → Flow α}
    (waits : task.rest = .call (.update order) next) {answer : Except StoreError Order}
    {after : MemoryStore} (step : office.store.Step ⟨.update order, answer⟩ after) :
    ((∃ error, answer = .error error) ∧ after = office.store) ∨
      ∃ base ∈ office.store.orders, ∃ stored, answer = .ok stored ∧
        base ∈ documents task.heard ∧
        (∀ document ∈ documents task.heard, document.id = order.id →
          document.version = order.version → document = base) ∧
        base.id = order.id ∧ base.version = order.version ∧
        stored = { order with version := stored.version } ∧
        stored.version.toInt = base.version.toInt + 1 ∧ after = office.store.replace stored := by
  have path := task.path
  rw [waits] at path
  have known : ∀ document ∈ documents task.heard, office.store.Knows document :=
    fun document given => informed document (mem_documents_of_mem member given)
  cases step with
  | kept unwritten =>
    rcases answer with error | stored
    · exact Or.inl ⟨⟨error, rfl⟩, rfl⟩
    · cases unwritten
  | @changed base _ stored baseIn sameId sameVersion counted =>
    obtain ⟨shape, later⟩ := Order.nextVersion_eq_ok counted
    have isBase : ∀ document ∈ documents task.heard, document.id = order.id →
        document.version = order.version → document = base := fun document given id version =>
      ((known document given).eq_of_version baseIn (sameId.trans id.symm)
        (sameVersion.trans version.symm)).symm
    obtain ⟨document, given, id, version⟩ := edits task.job task.heard order next path
    refine Or.inr ⟨base, baseIn, stored, rfl, ?_, isBase, sameId, sameVersion, shape, ?_, rfl⟩
    · rw [← isBase document given id version]
      exact given
    · rw [later, sameVersion]

end Program

/-- **No change is lost.** However jobs and callers that edit copies are interleaved on one store:

* an update either fails and leaves the store as it is, or it replaces the one document of its id
  and version that its task was given, by the edited copy at the next version;
* two orders that are in the store at any two moments and have one id and one version are equal. -/
theorem no_change_is_lost (settings : Settings) (store : MemoryStore)
    (actions : List (Action Visitor)) :
    let office := (opened (Visitor.flow settings) store).run actions
    (∀ index said task order next, office.tasks[index]? = some task →
      task.rest = .call (.update order) next →
      ∃ after, (office.act (.answer index said)).tasks[index]? = some after ∧
        ((∃ error, after.heard = task.heard ++ [⟨.update order, .error error⟩] ∧
            (office.act (.answer index said)).store = office.store) ∨
          ∃ base ∈ office.store.orders, ∃ stored,
            after.heard = task.heard ++ [⟨.update order, .ok stored⟩] ∧
            base ∈ documents task.heard ∧
            (∀ document ∈ documents task.heard, document.id = order.id →
              document.version = order.version → document = base) ∧
            base.id = order.id ∧ base.version = order.version ∧
            stored = { order with version := stored.version } ∧
            stored.version.toInt = base.version.toInt + 1 ∧
            (office.act (.answer index said)).store = office.store.replace stored)) ∧
    ∀ first ∈ office.store.orders, ∀ later, ∀ second ∈ (office.run later).store.orders,
      second.id = first.id → second.version = first.version → second = first := by
  intro office
  refine ⟨?_, fun first firstIn later second => eq_of_version_run firstIn later⟩
  intro index said task order next found waits
  obtain ⟨sameStore, after, there, heard⟩ := hear_answer found waits said
  refine ⟨after, there, ?_⟩
  rw [heard, sameStore]
  have member : task ∈ office.tasks := List.mem_of_getElem? found
  have step := office.store.step_serve (.update order) (said (.update order))
  rcases update_replaces_base (Visitor.editsCopies settings) (informed_run store actions) member
    waits step with ⟨⟨error, failed⟩, same⟩ | ⟨base, baseIn, stored, taken, replaces⟩
  · exact Or.inl ⟨error, by rw [failed], same⟩
  · exact Or.inr ⟨base, baseIn, stored, by rw [taken], replaces⟩

/-! ### Remarks on an order that is paid -/

section Tasks

variable {ι α : Type} {program : ι → Flow α} {office : Office program} {index : Nat}

/-- The order that a task is about to store in place of another. -/
def pending? (office : Office program) (index : Nat) : Option Order :=
  match office.tasks[index]? with
  | some ⟨_, _, .call (.update order) _, _⟩ => some order
  | _ => none

/-- The order that the last answer to a task was, if it wrote one. -/
def lastWritten? (office : Office program) (index : Nat) : Option Order :=
  (office.tasks[index]?.bind (·.heard.getLast?)).bind Exchange.written?

theorem exists_task_of_pending? {order : Order} (found : office.pending? index = some order) :
    ∃ task next, office.tasks[index]? = some task ∧ task.rest = .call (.update order) next := by
  unfold pending? at found
  split at found
  · rename_i member
    cases found
    exact ⟨_, _, member, rfl⟩
  · cases found

theorem lastWritten?_of_heard {task : Task program} {heard : List Exchange} {exchange : Exchange}
    (found : office.tasks[index]? = some task) (same : task.heard = heard ++ [exchange]) :
    office.lastWritten? index = exchange.written? := by
  simp [lastWritten?, found, same]

end Tasks

/-- A caller that writes one remark after another into the description of the order. -/
def remarks (texts : List String) : Visitor :=
  .direct (Flow.amend "" (texts.map fun text order => { order with description := text }))
    (Flow.editsCopies_amend "" _)

/-- An order by card is fetched by a caller with a remark; then it is paid; then a caller with two
remarks fetches it and stores the first. -/
def remarkRun : List (Action Visitor) :=
  let answers (index count : Nat) : List (Action Visitor) :=
    List.replicate count (.answer index walletDesk.attend)
  let payment : Job :=
    .pay { orderId := "", methodId := "card", requisites := Dict.empty.insert "code" "1234" } ∅
  .start (.desk (.place cardRequest)) :: answers 0 24
    ++ .start (remarks ["early"]) :: answers 1 1
    ++ .start (.desk payment) :: answers 2 24
    ++ .start (remarks ["late", "later"]) :: answers 3 2

/-- The office after that run. -/
def remarkOffice : Office (Visitor.flow {}) := (opened (Visitor.flow {}) .empty).run remarkRun

/-- The early remark is refused, since the order was paid after it was fetched. The last remark
replaces what the remark before it was stored as, and the order is paid still. -/
theorem no_change_is_lost_remarks :
    (∃ early after order error, remarkOffice.tasks[1]? = some early ∧
        (remarkOffice.act (.answer 1 walletDesk.attend)).tasks[1]? = some after ∧
        order.version = 0 ∧ after.heard = early.heard ++ [⟨.update order, .error error⟩] ∧
        (remarkOffice.act (.answer 1 walletDesk.attend)).store = remarkOffice.store) ∧
      ∃ late after order stored, remarkOffice.tasks[3]? = some late ∧
        (remarkOffice.act (.answer 3 walletDesk.attend)).tasks[3]? = some after ∧
        after.heard = late.heard ++ [⟨.update order, .ok stored⟩] ∧
        stored.version = 3 ∧ stored.status = .created ∧ stored.description = "later" ∧
        ∃ base ∈ documents late.heard, base ∈ remarkOffice.store.orders ∧ base.version = 2 ∧
          (remarkOffice.act (.answer 3 walletDesk.attend)).store =
            remarkOffice.store.replace stored := by
  have updates := (no_change_is_lost {} .empty remarkRun).1
  have sameOffice : (opened (Visitor.flow {}) .empty).run remarkRun = remarkOffice := rfl
  rw [sameOffice] at updates
  have early : (remarkOffice.pending? 1).map (·.version) = some 0 := by decide +kernel
  have late : (remarkOffice.pending? 3).map (fun order =>
      (order.version, order.status, order.description)) = some (2, .created, "later") := by
    decide +kernel
  have refused : (remarkOffice.act (.answer 1 walletDesk.attend)).lastWritten? 1 = none := by
    decide +kernel
  have taken : ((remarkOffice.act (.answer 3 walletDesk.attend)).lastWritten? 3).map (·.version) =
      some 3 := by
    decide +kernel
  obtain ⟨order, waits, earlyVersion⟩ := Option.map_eq_some_iff.mp early
  obtain ⟨lateOrder, lateWaits, same⟩ := Option.map_eq_some_iff.mp late
  obtain ⟨task, next, found, rest⟩ := exists_task_of_pending? waits
  obtain ⟨lateTask, lateNext, lateFound, lateRest⟩ := exists_task_of_pending? lateWaits
  refine ⟨?_, ?_⟩
  · obtain ⟨after, there, outcome⟩ := updates 1 walletDesk.attend task order next found rest
    rcases outcome with ⟨error, heard, kept⟩ | ⟨base, -, stored, heard, -⟩
    · exact ⟨task, after, order, error, found, there, earlyVersion, heard, kept⟩
    · rw [lastWritten?_of_heard there heard] at refused
      cases refused
  · obtain ⟨after, there, outcome⟩ :=
      updates 3 walletDesk.attend lateTask lateOrder lateNext lateFound lateRest
    rcases outcome with ⟨error, heard, -⟩ |
      ⟨base, baseIn, stored, heard, given, -, -, version, shape, -, replaced⟩
    · rw [lastWritten?_of_heard there heard] at taken
      cases taken
    · rw [lastWritten?_of_heard there heard] at taken
      obtain ⟨lateVersion, status, description⟩ : lateOrder.version = 2 ∧ lateOrder.status = .created
          ∧ lateOrder.description = "later" := by simpa using same
      refine ⟨lateTask, after, lateOrder, stored, lateFound, there, heard, Option.some.inj taken,
        ?_, ?_, base, given, baseIn, version.trans lateVersion, replaced⟩
      · rw [shape]
        exact status
      · rw [shape]
        exact description

end Office

end Paydesk
