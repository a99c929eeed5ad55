/-
**The course of a flow.**

A flow is a tree, and the answers that came back choose a path through it. Two views of that path
carry every statement about flows:

* `Flow.Goes`: a flow, the exchanges so far, and what is left of it. `goes_call`, `goes_done` and
  `goes_stop` read one step off the tree, `Goes.snoc` adds one at the end;
* `Flow.Yields`: as long as the parties answer in a given manner, a flow only inquires until it
  stops or has a value of some kind. `Yields.bind` puts two flows together, and `Yields.course`
  splits a path where the first of two flows has its value;
* `goes_bind_done`: the paths to the value of two flows in sequence;
* `goes_map`: a value changed at the end changes no path.
-/

import Paydesk.Flow.Basic

namespace Paydesk

/-- A question with what came back. -/
structure Exchange where
  question : Call
  answer : question.Answer

namespace Call

/-- Whether a call looks something up in the desk's tables. -/
def isLookup : Call → Bool
  | project _ | method _ | currency _ | convert _ _ _ | commission _ _ _ | vat _ _ _ => true
  | locate _ => true
  | _ => false

/-- Whether a call only finds something out, and shows no order by its id. -/
def isInquiry : Call → Bool
  | fetchByClientId _ _ | clock | newId => true
  | question => question.isLookup

/-- Whether a call writes, publishes and announces nothing. -/
def isReading : Call → Bool
  | fetch _ | createPayment _ _ _ | readNotification _ _ _ => true
  | question => question.isInquiry

theorem isInquiry_of_isLookup {question : Call} (lookup : question.isLookup) :
    question.isInquiry := by
  cases question with
  | fetchByClientId | clock | newId => rfl
  | _ => exact lookup

theorem isReading_of_isInquiry {question : Call} (inquiry : question.isInquiry) :
    question.isReading := by
  cases question with
  | fetch | createPayment | readNotification => rfl
  | _ => exact inquiry

end Call

/-- How the parties answer. -/
abbrev Manner : Type := (question : Call) → question.Answer → Prop

/-- Any answer to anything. -/
def Manner.any : Manner := fun _ _ => True

theorem Manner.any_of_mem (heard : List Exchange) :
    ∀ exchange ∈ heard, Manner.any exchange.question exchange.answer :=
  fun _ _ => trivial

namespace Flow

variable {α β : Type}

/-! ### Paths -/

/-- **A path.** What is left of a flow after some exchanges. -/
inductive Goes : Flow α → List Exchange → Flow α → Prop where
  | here (flow : Flow α) : Goes flow [] flow
  | on {question : Call} {next : question.Answer → Flow α} {answer : question.Answer}
      {heard : List Exchange} {rest : Flow α} (further : Goes (next answer) heard rest) :
      Goes (.call question next) (⟨question, answer⟩ :: heard) rest

@[simp] theorem goes_done {value : α} {heard : List Exchange} {rest : Flow α} :
    Goes (.done value) heard rest ↔ heard = [] ∧ rest = .done value := by
  constructor
  · rintro ⟨⟩
    exact ⟨rfl, rfl⟩
  · rintro ⟨rfl, rfl⟩
    exact .here _

@[simp] theorem goes_stop {reason : Stop} {heard : List Exchange} {rest : Flow α} :
    Goes (.stop reason) heard rest ↔ heard = [] ∧ rest = .stop reason := by
  constructor
  · rintro ⟨⟩
    exact ⟨rfl, rfl⟩
  · rintro ⟨rfl, rfl⟩
    exact .here _

theorem goes_call {question : Call} {next : question.Answer → Flow α} {heard : List Exchange}
    {rest : Flow α} :
    Goes (.call question next) heard rest ↔
      (heard = [] ∧ rest = .call question next) ∨
        ∃ answer later, heard = ⟨question, answer⟩ :: later ∧ Goes (next answer) later rest := by
  constructor
  · rintro (_ | further)
    · exact Or.inl ⟨rfl, rfl⟩
    · exact Or.inr ⟨_, _, rfl, further⟩
  · rintro (⟨rfl, rfl⟩ | ⟨answer, later, rfl, further⟩)
    · exact .here _
    · exact .on further

/-- A path with one more exchange. -/
theorem Goes.snoc {flow : Flow α} {heard : List Exchange} {question : Call}
    {next : question.Answer → Flow α} (path : Goes flow heard (.call question next))
    (answer : question.Answer) : Goes flow (heard ++ [⟨question, answer⟩]) (next answer) := by
  generalize target : Flow.call question next = rest at path
  induction path with
  | here flow =>
    subst target
    exact .on (.here _)
  | on further ih => exact .on (ih target)

/-! ### Flows in sequence -/

theorem andThen_done (flow : Flow α) : flow.andThen done = flow := by
  induction flow with
  | done value => rfl
  | stop reason => rfl
  | call question next ih => exact congrArg (call question) (funext ih)

theorem andThen_assoc {γ : Type} (flow : Flow α) (next : α → Flow β) (last : β → Flow γ) :
    (flow.andThen next).andThen last = flow.andThen fun value => (next value).andThen last := by
  induction flow with
  | done value => rfl
  | stop reason => rfl
  | call question next ih => exact congrArg (call question) (funext ih)

instance : LawfulMonad Flow := .mk' Flow andThen_done (fun _ _ => rfl) andThen_assoc

/-- Two paths, one after another. -/
theorem Goes.append {flow middle rest : Flow α} {before after : List Exchange}
    (first : flow.Goes before middle) (second : middle.Goes after rest) :
    flow.Goes (before ++ after) rest := by
  induction first with
  | here => exact second
  | on _ ih => exact .on (ih second)

/-- A path of the first of two flows is one of both. -/
theorem Goes.bind {flow rest : Flow α} {heard : List Exchange} (path : flow.Goes heard rest)
    (next : α → Flow β) : (flow >>= next).Goes heard (rest >>= next) := by
  induction path with
  | here => exact .here _
  | on _ ih => exact .on ih

/-- **The paths to the value of two flows in sequence** lead by a value of the first. -/
theorem goes_bind_done {flow : Flow α} {next : α → Flow β} {heard : List Exchange} {value : β} :
    (flow >>= next).Goes heard (.done value) ↔
      ∃ first before after, heard = before ++ after ∧ flow.Goes before (.done first)
        ∧ (next first).Goes after (.done value) := by
  constructor
  · intro path
    induction flow generalizing heard with
    | done first => exact ⟨first, [], heard, rfl, .here _, path⟩
    | stop reason =>
      obtain ⟨-, same⟩ := goes_stop.mp path
      cases same
    | call question further ih =>
      rcases goes_call.mp path with ⟨-, same⟩ | ⟨answer, later, rfl, onward⟩
      · cases same
      obtain ⟨first, before, after, rfl, reached, second⟩ := ih answer onward
      exact ⟨first, _ :: before, after, rfl, .on reached, second⟩
  · rintro ⟨first, before, after, rfl, reached, second⟩
    exact (reached.bind next).append second

/-- **The paths of a flow whose value is changed at the end** are those of the flow. -/
theorem goes_map {change : α → β} {flow : Flow α} {heard : List Exchange} {rest : Flow β} :
    Goes (change <$> flow) heard rest ↔
      ∃ left, flow.Goes heard left ∧ rest = change <$> left := by
  constructor
  · intro path
    induction flow generalizing heard with
    | done value =>
      obtain ⟨rfl, rfl⟩ := goes_done.mp path
      exact ⟨.done value, .here _, rfl⟩
    | stop reason =>
      obtain ⟨rfl, rfl⟩ := goes_stop.mp path
      exact ⟨.stop reason, .here _, rfl⟩
    | call question next ih =>
      rcases goes_call.mp path with ⟨rfl, rfl⟩ | ⟨answer, later, rfl, further⟩
      · exact ⟨.call question next, .here _, rfl⟩
      · obtain ⟨left, onward, rfl⟩ := ih answer further
        exact ⟨left, .on onward, rfl⟩
  · rintro ⟨left, path, rfl⟩
    induction path with
    | here => exact .here _
    | on _ ih => exact .on ih

/-! ### What flows yield -/

/-- **A flow that yields.** While the parties answer in a manner it only inquires, until it stops
or is done with a value of some kind. -/
inductive Yields (manner : Manner) (kind : α → Prop) : Flow α → Prop where
  | done {value : α} (holds : kind value) : Yields manner kind (.done value)
  | stop (reason : Stop) : Yields manner kind (.stop reason)
  | ask {question : Call} {next : question.Answer → Flow α} (inquiry : question.isInquiry)
      (further : ∀ answer, manner question answer → Yields manner kind (next answer)) :
      Yields manner kind (.call question next)

/-- A flow that stopped or is about to read something. -/
inductive Reads : Flow α → Prop where
  | stopped (reason : Stop) : Reads (.stop reason)
  | asking {question : Call} {next : question.Answer → Flow α} (reading : question.isReading) :
      Reads (.call question next)

variable {manner : Manner} {kind : α → Prop}

/-- A wider kind in place of another. -/
theorem Yields.mono {wider : α → Prop} (within : ∀ value, kind value → wider value)
    {flow : Flow α} (yields : flow.Yields manner kind) : flow.Yields manner wider := by
  induction yields with
  | done holds => exact .done (within _ holds)
  | stop reason => exact .stop reason
  | ask inquiry _ ih => exact .ask inquiry ih

/-- **Two flows in sequence** yield what the second yields from every value of the first. -/
theorem Yields.bind {second : β → Prop} {flow : Flow α} {next : α → Flow β}
    (first : flow.Yields manner kind)
    (onward : ∀ value, kind value → (next value).Yields manner second) :
    (flow >>= next).Yields manner second := by
  induction first with
  | done holds => exact onward _ holds
  | stop reason => exact .stop reason
  | ask inquiry _ ih => exact .ask inquiry ih

/-- **A path of two flows** of which the first yields something: it still inquires, or goes on with
the second from a value of the first. -/
theorem Yields.course {flow : Flow α} {next : α → Flow β} {rest : Flow β}
    {heard : List Exchange} (yields : flow.Yields manner kind)
    (path : (flow >>= next).Goes heard rest)
    (within : ∀ exchange ∈ heard, manner exchange.question exchange.answer) :
    ((∀ exchange ∈ heard, exchange.question.isInquiry) ∧ rest.Reads) ∨
      ∃ before after value, heard = before ++ after ∧
        (∀ exchange ∈ before, exchange.question.isInquiry) ∧ kind value ∧
        (next value).Goes after rest := by
  induction yields generalizing heard with
  | @done value holds => exact Or.inr ⟨[], heard, value, rfl, by simp, holds, path⟩
  | stop reason =>
    obtain ⟨rfl, rfl⟩ := goes_stop.mp path
    exact Or.inl ⟨by simp, .stopped reason⟩
  | @ask question tail inquiry _ ih =>
    rcases goes_call.mp path with ⟨rfl, rfl⟩ | ⟨answer, later, rfl, onward⟩
    · exact Or.inl ⟨by simp, .asking (Call.isReading_of_isInquiry inquiry)⟩
    · rw [List.forall_mem_cons] at within
      rcases ih answer within.1 onward within.2 with
        ⟨asked, reads⟩ | ⟨before, after, value, rfl, asked, holds, further⟩
      · exact Or.inl ⟨List.forall_mem_cons.mpr ⟨inquiry, asked⟩, reads⟩
      · exact Or.inr ⟨_ :: before, after, value, rfl, List.forall_mem_cons.mpr ⟨inquiry, asked⟩,
          holds, further⟩

end Flow

end Paydesk
