/-
**Flows side by side.**

Two flows run in one world, each from its start. They agree when they come to values that are
related and leave the world as it is, or stop for the same reason; a stop for a reason that is
excused may stand against anything. Flows in sequence agree when their parts do, and a part that
both have in common agrees with itself, as long as it only inquires.

* `Alike`, `Alike.bind`: ends that are told apart by nothing that matters, one after another;
* `World.endOf`, `World.endOf_bind`: where a flow ends, and two flows in sequence;
* `World.endOf_of_yields`: **a flow that inquires leaves the world as it is**, and its value is of
  the kind that it yields;
* `World.Agree`, `Agree.bind`, `Agree.share`: flows that end alike in the world as it was.
-/

import Paydesk.Proofs.Desk.Checks
import Paydesk.Proofs.Flow.Course

namespace Paydesk

variable {α β γ δ : Type}

/-! ### Ends that are alike -/

/-- Two ends are alike: in related values; in one stop for both; or one of them in a stop that is
excused. -/
inductive Alike (excused : Stop → Prop) (related : α → β → Prop) :
    Except Stop α → Except Stop β → Prop
  | values {value : α} {twin : β} (same : related value twin) :
      Alike excused related (.ok value) (.ok twin)
  | stops (stop : Stop) : Alike excused related (.error stop) (.error stop)
  | first {stop : Stop} {other : Except Stop β} (reason : excused stop) :
      Alike excused related (.error stop) other
  | second {stop : Stop} {other : Except Stop α} (reason : excused stop) :
      Alike excused related other (.error stop)

section Alike

variable {excused : Stop → Prop} {related : α → β → Prop} {later : γ → δ → Prop}

/-- Whatever comes after ends that are alike, if it ends alike from related values. -/
theorem Alike.bind {ended : Except Stop α} {other : Except Stop β} {next : α → Except Stop γ}
    {nextOther : β → Except Stop δ} (alike : Alike excused related ended other)
    (onward : ∀ value twin, related value twin →
      Alike excused later (next value) (nextOther twin)) :
    Alike excused later (ended >>= next) (other >>= nextOther) := by
  cases alike with
  | values same => exact onward _ _ same
  | stops stop => exact .stops stop
  | first reason => exact .first reason
  | second reason => exact .second reason

end Alike

namespace World

variable {σ : Type} [OrderStore σ] {world : World σ} {now : Instant} {freshId : String}

/-! ### Where flows end -/

/-- Where a flow ends: with its value and the world after it, or in a stop. -/
def endOf (world : World σ) (now : Instant) (freshId : String) (flow : Flow α) :
    Except Stop (α × World σ) :=
  let ended := (World.run now freshId flow).run world
  ended.1.map (·, ended.2)

/-- **Two flows in sequence** end where the second ends in the world after the first. -/
theorem endOf_bind (flow : Flow α) (next : α → Flow β) :
    world.endOf now freshId (flow >>= next)
      = world.endOf now freshId flow >>= fun (value, after) =>
          after.endOf now freshId (next value) := by
  unfold endOf
  cases ran : (World.run now freshId flow).run world with
  | mk result after =>
    cases result with
    | error stop =>
      rw [run_bind_error ran]
      rfl
    | ok value =>
      rw [run_bind_ok ran]
      rfl

/-- Storing an order ends with what the store returns, or in what its error means. -/
theorem endOf_insert (order : Order) : world.endOf now freshId (.insert order)
    = match OrderStore.insert world.store order with
      | .error error => .error (.ofStore error)
      | .ok (stored, store) => .ok (stored, { world with store }) := by
  have answered : world.endOf now freshId (.insert order) =
      let ended := (keep (OrderStore.insert world.store order)).run world
      ended.2.endOf now freshId (.orStop .ofStore ended.1) := rfl
  rw [answered]
  cases OrderStore.insert world.store order with
  | error error => rfl
  | ok pair => rfl

/-! ### Inquiries -/

/-- The manner in which a world answers at a time, with an id to give away. -/
def Says (world : World σ) (now : Instant) (freshId : String) : Manner :=
  fun question answer => ((World.answer now freshId question).run world).1 = answer

/-- An inquiry leaves the world as it is. -/
theorem answer_of_isInquiry {question : Call} (inquiry : question.isInquiry) :
    ((World.answer now freshId question).run world).2 = world := by
  cases question with
  | createPayment | readNotification | fetch | insert | update | publish => cases inquiry
  | announceCreated | announceFinalized => cases inquiry
  | _ => rfl

/-- **A flow that inquires** stops, or it has a value of the kind that it yields in the world as it
was. -/
theorem endOf_of_yields {kind : α → Prop} {flow : Flow α}
    (yields : flow.Yields (world.Says now freshId) kind) :
    (∃ stop, world.endOf now freshId flow = .error stop)
      ∨ ∃ value, kind value ∧ world.endOf now freshId flow = .ok (value, world) := by
  induction yields with
  | done holds => exact Or.inr ⟨_, holds, rfl⟩
  | stop reason => exact Or.inl ⟨reason, rfl⟩
  | @ask question next inquiry _ hypothesis =>
    generalize answered : (World.answer now freshId question).run world = pair at *
    have onward : world.endOf now freshId (.call question next)
        = pair.2.endOf now freshId (next pair.1) := by
      rw [← answered]
      rfl
    have kept : pair.2 = world := answered ▸ answer_of_isInquiry inquiry
    rw [onward, kept]
    exact hypothesis pair.1 (congrArg Prod.fst answered)

/-! ### Flows that agree -/

/-- Two flows agree in a world if they end alike, with the world as it was where both have a value.
-/
def Agree (world : World σ) (now : Instant) (freshId : String) (excused : Stop → Prop)
    (related : α → β → Prop) (flow : Flow α) (other : Flow β) : Prop :=
  Alike excused (fun ended twin => related ended.1 twin.1 ∧ ended.2 = world ∧ twin.2 = world)
    (world.endOf now freshId flow) (world.endOf now freshId other)

namespace Agree

variable {excused : Stop → Prop} {related : α → β → Prop} {later : γ → δ → Prop}

theorem done {value : α} {twin : β} (same : related value twin) :
    world.Agree now freshId excused related (.done value) (.done twin) :=
  .values ⟨same, rfl, rfl⟩

/-- **Two flows in sequence** agree if their parts do. -/
theorem bind {flow : Flow α} {other : Flow β} {next : α → Flow γ} {nextOther : β → Flow δ}
    (agree : world.Agree now freshId excused related flow other)
    (onward : ∀ value twin, related value twin →
      world.Agree now freshId excused later (next value) (nextOther twin)) :
    world.Agree now freshId excused later (flow >>= next) (other >>= nextOther) := by
  unfold Agree
  rw [endOf_bind, endOf_bind]
  refine Alike.bind agree ?_
  rintro ⟨value, after⟩ ⟨twin, after_twin⟩ ⟨same, rfl, rfl⟩
  exact onward value twin same

/-- Flows with the same end agree on their value if one of them only inquires. -/
theorem of_endOf_eq {kind : α → Prop} {flow other : Flow α}
    (yields : flow.Yields (world.Says now freshId) kind)
    (same : world.endOf now freshId other = world.endOf now freshId flow) :
    world.Agree now freshId excused (fun value twin => kind value ∧ twin = value) flow other := by
  unfold Agree
  rw [same]
  rcases endOf_of_yields yields with ⟨stop, ended⟩ | ⟨value, isKind, ended⟩
  · rw [ended]
    exact .stops stop
  · rw [ended]
    exact .values ⟨⟨isKind, rfl⟩, rfl, rfl⟩

/-- **A first part in common** agrees with itself if it only inquires. -/
theorem share {kind : α → Prop} {flow : Flow α} {next : α → Flow γ} {nextOther : α → Flow δ}
    (yields : flow.Yields (world.Says now freshId) kind)
    (onward : ∀ value, kind value →
      world.Agree now freshId excused later (next value) (nextOther value)) :
    world.Agree now freshId excused later (flow >>= next) (flow >>= nextOther) := by
  refine (of_endOf_eq yields rfl).bind ?_
  rintro _ value ⟨isKind, rfl⟩
  exact onward value isKind

end Agree

end World

end Paydesk
