/-
**What a desk's tables say.**

The tables of a desk never change while flows look things up in them. A flow that consults them has
one value, then, whenever it has any: a look-up may fail, but what it finds is what the table says.

* `Desk.look`, `Desk.evaluate`: the tables' answer to a call, and a flow answered by them alone;
* `Desk.attend`: the same at a store that takes every change;
* `Desk.Says`: the manner of parties that fail or answer as the tables say;
* `Consults.evaluate_eq`: **what a consulting flow finds** is its value by the tables.
-/

import Paydesk.Desk.World
import Paydesk.Proofs.Flow.Lookup
import Paydesk.Store.Memory

namespace Paydesk

variable {α : Type}

namespace Desk

/-- The answer of a desk without orders to a call. -/
def look (desk : Desk) (question : Call) : question.Answer :=
  ((World.answer .epoch "" question).run ({ desk, store := .empty } : World MemoryStore)).1

/-- A flow that is answered by a desk without orders. -/
def evaluate (desk : Desk) (flow : Flow α) : Except Stop α := Id.run (flow.run (m := Id) desk.look)

/-- The answer of a desk to a call, with every change let through to the store. -/
def attend (desk : Desk) : (question : Call) → question.Answer
  | .update order => .ok order
  | question => desk.look question

/-- The parties fail or answer as the tables of a desk say. -/
def Says (desk : Desk) : Manner := fun question answer =>
  question.isLookup → question.succeeds answer → answer = desk.look question

/-- Changes that are let through are no look-ups. -/
theorem says_attend (desk : Desk) (question : Call) : desk.Says question (desk.attend question) := by
  intro lookup _
  cases question with
  | update => cases lookup
  | _ => rfl

end Desk

/-- **What a consulting flow finds** is its value by the tables. -/
theorem Flow.Consults.evaluate_eq {desk : Desk} {flow : Flow α} {value : α}
    (consults : flow.Consults) (found : flow.Finds desk.Says value) :
    desk.evaluate flow = .ok value := by
  obtain ⟨heard, path, within⟩ := found
  induction consults generalizing heard with
  | done other =>
    obtain ⟨-, same⟩ := goes_done.mp path
    cases same
    rfl
  | stop reason =>
    obtain ⟨-, same⟩ := goes_stop.mp path
    cases same
  | @look question next lookup strict _ ih =>
    rcases goes_call.mp path with ⟨-, same⟩ | ⟨answer, later, rfl, onward⟩
    · cases same
    rw [List.forall_mem_cons] at within
    cases succeeds : question.succeeds answer with
    | false =>
      obtain ⟨reason, stops⟩ := strict answer succeeds
      rw [stops] at onward
      cases (goes_stop.mp onward).2
    | true =>
      have said : answer = desk.look question := within.1 lookup succeeds
      subst said
      exact ih _ later onward within.2

end Paydesk
