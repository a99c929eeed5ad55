/-
**Many flows at one store.**

An office runs any number of flows on one store in memory. In each action a new flow is started, or
the call that some flow is waiting for is answered; calls of one flow may so fall between any two
calls of another.

* `Task`, `Office`, `Office.run`: flows at work, and a run of actions;
* `Office.Step`, `step_act`: **all that an action does** — nothing that was heard changes, or one
  task hears one more answer;
* `Office.induction`: an invariant that every action preserves holds after every run;
* `informed_run`: every document that any task was given is known to the store.
-/

import Paydesk.Proofs.Store.Serve

namespace Paydesk

variable {ι α : Type}

/-- A flow at work: what it heard, and what is left of it. -/
structure Task (program : ι → Flow α) where
  job : ι
  heard : List Exchange
  rest : Flow α
  path : (program job).Goes heard rest

/-- Flows at work on one store. -/
structure Office (program : ι → Flow α) where
  store : MemoryStore
  tasks : List (Task program)

/-- What happens next in an office. -/
inductive Action (ι : Type) where
  /-- A job is taken up. -/
  | start (job : ι)
  /-- A task hears what it asked for; where no store answers, that comes from outside. -/
  | answer (index : Nat) (said : (question : Call) → question.Answer)

/-- The documents that a store gave out. -/
def documents (heard : List Exchange) : List Order := heard.filterMap Exchange.document?

theorem mem_documents {heard : List Exchange} {document : Order} :
    document ∈ documents heard ↔ ∃ exchange ∈ heard, document ∈ exchange.document? :=
  List.mem_filterMap

variable {program : ι → Flow α}

/-- A task that has not asked anything. -/
def Task.fresh (program : ι → Flow α) (job : ι) : Task program :=
  ⟨job, [], program job, .here _⟩

/-- A task after the call that it waits for is answered, and the store after that. -/
def Task.hear (store : MemoryStore) (said : (question : Call) → question.Answer) :
    Task program → Task program × MemoryStore
  | ⟨job, heard, .call question next, path⟩ =>
    let served := store.serve question (said question)
    (⟨job, heard ++ [⟨question, served.1⟩], next served.1, path.snoc served.1⟩, served.2)
  | task => (task, store)

namespace Office

/-- An office with a store and nothing to do. -/
def opened (program : ι → Flow α) (store : MemoryStore) : Office program := ⟨store, []⟩

/-- An office after an action. -/
def act (office : Office program) : Action ι → Office program
  | .start job => { office with tasks := office.tasks ++ [.fresh program job] }
  | .answer index said =>
    match office.tasks[index]? with
    | some task =>
      let (next, store) := task.hear office.store said
      { store, tasks := office.tasks.set index next }
    | none => office

/-- An office after a run of actions. -/
def run (office : Office program) (actions : List (Action ι)) : Office program :=
  actions.foldl act office

/-- All that the tasks of an office heard. -/
def heard (office : Office program) : List Exchange := office.tasks.flatMap (·.heard)

/-- **What an action does.** -/
inductive Step (office : Office program) : Action ι → Office program → Prop where
  | quiet {action : Action ι} {after : Office program} (sameStore : after.store = office.store)
      (sameHeard : after.heard = office.heard) : Step office action after
  | exchange {index : Nat} {said : (question : Call) → question.Answer} {after : Office program}
      {task : Task program} {question : Call} {next : question.Answer → Flow α}
      {answer : question.Answer} (member : task ∈ office.tasks)
      (waits : task.rest = .call question next)
      (served : office.store.serve question (said question) = (answer, after.store))
      (heard : after.heard.Perm (⟨question, answer⟩ :: office.heard)) :
      Step office (.answer index said) after

/-- One task in the place of another that heard one thing less. -/
theorem perm_flatMap_set {tasks : List (Task program)} {index : Nat} {task next : Task program}
    {exchange : Exchange} (found : tasks[index]? = some task)
    (heard : next.heard = task.heard ++ [exchange]) :
    ((tasks.set index next).flatMap (·.heard)).Perm (exchange :: tasks.flatMap (·.heard)) := by
  obtain ⟨inside, rfl⟩ := List.getElem?_eq_some_iff.mp found
  have split : tasks = tasks.take index ++ tasks[index] :: tasks.drop (index + 1) := by
    rw [← List.drop_eq_getElem_cons inside, List.take_append_drop]
  have before : tasks.flatMap (·.heard) = (tasks.take index).flatMap (·.heard) ++
      (tasks[index].heard ++ (tasks.drop (index + 1)).flatMap (·.heard)) := by
    conv => lhs; rw [split, List.flatMap_append, List.flatMap_cons]
  rw [before, List.set_eq_take_append_cons_drop, if_pos inside, List.flatMap_append,
    List.flatMap_cons, heard, List.append_assoc, List.singleton_append, ← List.append_assoc,
    ← List.append_assoc]
  exact List.perm_middle

/-- An answer to a task, and what else there is in the office after it. -/
theorem act_answer (office : Office program) {index : Nat} {task : Task program}
    (found : office.tasks[index]? = some task) (said : (question : Call) → question.Answer) :
    office.act (.answer index said) =
      ⟨(task.hear office.store said).2,
        office.tasks.set index (task.hear office.store said).1⟩ := by
  simp [act, found]

/-- **Every action is a step.** -/
theorem step_act (office : Office program) (action : Action ι) :
    office.Step action (office.act action) := by
  cases action with
  | start job => exact .quiet rfl (by simp [heard, act, Task.fresh])
  | answer index said =>
    cases found : office.tasks[index]? with
    | none => exact .quiet (by simp [act, found]) (by simp [act, found])
    | some task =>
      have member : task ∈ office.tasks := List.mem_of_getElem? found
      have unchanged : office.tasks.set index task = office.tasks := by
        obtain ⟨inside, rfl⟩ := List.getElem?_eq_some_iff.mp found
        exact List.set_getElem_self inside
      rw [act_answer office found said]
      rcases task with ⟨job, asked, value | reason | ⟨question, next⟩, path⟩
      · exact .quiet rfl (congrArg (fun tasks => tasks.flatMap Task.heard) unchanged)
      · exact .quiet rfl (congrArg (fun tasks => tasks.flatMap Task.heard) unchanged)
      · exact .exchange member rfl rfl (perm_flatMap_set found rfl)

/-- **Induction over a run.** -/
theorem induction (invariant : Office program → Prop) {office : Office program}
    {actions : List (Action ι)} (start : invariant office)
    (step : ∀ office, ∀ action ∈ actions, invariant office → invariant (office.act action)) :
    invariant (office.run actions) := by
  induction actions generalizing office with
  | nil => exact start
  | cons action later ih =>
    refine ih (step office action List.mem_cons_self start) ?_
    exact fun office action member => step office action (List.mem_cons_of_mem _ member)

/-! ### What the store of an office knows -/

variable {office after : Office program} {action : Action ι} {document : Order}

/-- What the store knows it knows after an action. -/
theorem Step.knows (step : office.Step action after) (known : office.store.Knows document) :
    after.store.Knows document := by
  cases step with
  | quiet sameStore => rwa [sameStore]
  | exchange _ _ served => exact (MemoryStore.step_of_serve served).knows known

/-- What the store knows it knows after every run. -/
theorem knows_run (actions : List (Action ι)) (known : office.store.Knows document) :
    (office.run actions).store.Knows document :=
  induction (fun office => office.store.Knows document) known
    fun office action _ before => (office.step_act action).knows before

/-- Every document that a task was given is known to the store. -/
def Informed (office : Office program) : Prop :=
  ∀ document ∈ documents office.heard, office.store.Knows document

/-- A document of one task is a document of the office. -/
theorem mem_documents_of_mem {task : Task program} (member : task ∈ office.tasks)
    (given : document ∈ documents task.heard) : document ∈ documents office.heard := by
  obtain ⟨exchange, heard, isDocument⟩ := mem_documents.mp given
  exact mem_documents.mpr ⟨exchange, List.mem_flatMap.mpr ⟨task, member, heard⟩, isDocument⟩

theorem Step.informed (step : office.Step action after) (informed : office.Informed) :
    after.Informed := by
  intro document given
  cases step with
  | quiet sameStore sameHeard =>
    rw [sameStore]
    rw [sameHeard] at given
    exact informed document given
  | exchange _ _ served heard =>
    have storeStep := MemoryStore.step_of_serve served
    obtain ⟨exchange, member, isDocument⟩ := mem_documents.mp given
    rcases List.mem_cons.mp (heard.mem_iff.mp member) with rfl | earlier
    · exact storeStep.knows_document isDocument
    · exact storeStep.knows (informed document (mem_documents.mpr ⟨exchange, earlier, isDocument⟩))

/-- **Every document that any task was given** in a run is known to the store after it. -/
theorem informed_run (store : MemoryStore) (actions : List (Action ι)) :
    ((opened program store).run actions).Informed :=
  induction Informed (fun _ given => nomatch given)
    fun office action _ informed => (office.step_act action).informed informed

end Office

end Paydesk
