/-
**How flows close.**

Every flow does all its finding out first. What is left then is one of four short closings: it
gives its value at once, stores a new order and tells the hooks, stores a changed order, or
publishes an order, stores it, and tells the hooks if it is settled for good.

* `Closing`, `Closing.flow`: the closings and the flows they are;
* `Closing.change?`: the order that is stored in place of another;
* `Closing.Way`, `way_of_goes`: every path of a closing, exchange by exchange.
-/

import Paydesk.Proofs.Flow.Course

namespace Paydesk

/-- What is left of a flow that found everything out. -/
inductive Closing (α : Type) where
  /-- Gives a value. -/
  | give (value : α)
  /-- Stores a new order and tells the hooks. -/
  | insert (order : Order) (finish : Order → α)
  /-- Stores a changed order. -/
  | update (order : Order) (finish : Order → α)
  /-- Publishes a changed order and stores it; the hooks are told if it is settled for good. -/
  | settle (message : Message) (order : Order) (finish : Order → α)

namespace Closing

variable {α β : Type}

/-- The flow of a closing. -/
def flow : Closing α → Flow α
  | give value => .done value
  | insert order finish => do
    let stored ← Flow.insert order
    let () ← Flow.ask (.announceCreated stored)
    return finish stored
  | update order finish => do
    let stored ← Flow.update order
    return finish stored
  | settle message order finish => do
    Flow.publish message
    let stored ← Flow.update order
    if stored.status.isFinal then
      let () ← Flow.ask (.announceFinalized stored)
    return finish stored

/-- A closing with its value changed at the end. -/
def map (change : α → β) : Closing α → Closing β
  | give value => give (change value)
  | insert order finish => insert order (change ∘ finish)
  | update order finish => update order (change ∘ finish)
  | settle message order finish => settle message order (change ∘ finish)

/-- The order that a closing stores in place of another. -/
def change? : Closing α → Option Order
  | update order _ | settle _ order _ => some order
  | give _ | insert _ _ => none

/-- The flow of a closing whose value is changed at the end. -/
theorem flow_map (change : α → β) (closing : Closing α) :
    (closing.map change).flow = change <$> closing.flow := by
  cases closing with
  | give value => rfl
  | insert order finish => simp [flow, map]
  | update order finish => simp [flow, map]
  | settle message order finish =>
    simp only [flow, map, map_bind, Function.comp_apply]
    congr 1
    funext sent
    congr 1
    funext stored
    by_cases isFinal : stored.status.isFinal = true
    · simp [isFinal]
    · simp [isFinal]

/-- **The way of a closing.** What was heard on it, and what is left. -/
inductive Way : Closing α → List Exchange → Flow α → Prop where
  | given {value : α} : Way (give value) [] (.done value)
  | toInsert {order : Order} {finish : Order → α} {next : Except StoreError Order → Flow α} :
      Way (insert order finish) [] (.call (.insert order) next)
  | notInserted {order : Order} {finish : Order → α} {error : StoreError} :
      Way (insert order finish) [⟨.insert order, .error error⟩] (.stop (.ofStore error))
  | toAnnounceCreated {order stored : Order} {finish : Order → α} {next : Unit → Flow α} :
      Way (insert order finish) [⟨.insert order, .ok stored⟩] (.call (.announceCreated stored) next)
  | inserted {order stored : Order} {finish : Order → α} :
      Way (insert order finish) [⟨.insert order, .ok stored⟩, ⟨.announceCreated stored, ()⟩]
        (.done (finish stored))
  | toUpdate {order : Order} {finish : Order → α} {next : Except StoreError Order → Flow α} :
      Way (update order finish) [] (.call (.update order) next)
  | notUpdated {order : Order} {finish : Order → α} {error : StoreError} :
      Way (update order finish) [⟨.update order, .error error⟩] (.stop (.ofStore error))
  | updated {order stored : Order} {finish : Order → α} :
      Way (update order finish) [⟨.update order, .ok stored⟩] (.done (finish stored))
  | toPublish {message : Message} {order : Order} {finish : Order → α}
      {next : Except BrokerError Unit → Flow α} :
      Way (settle message order finish) [] (.call (.publish message) next)
  | notPublished {message : Message} {order : Order} {finish : Order → α} {error : BrokerError} :
      Way (settle message order finish) [⟨.publish message, .error error⟩]
        (.stop (.failed (.publish error)))
  | toSettle {message : Message} {order : Order} {finish : Order → α}
      {next : Except StoreError Order → Flow α} :
      Way (settle message order finish) [⟨.publish message, .ok ()⟩] (.call (.update order) next)
  | notSettled {message : Message} {order : Order} {finish : Order → α} {error : StoreError} :
      Way (settle message order finish)
        [⟨.publish message, .ok ()⟩, ⟨.update order, .error error⟩] (.stop (.ofStore error))
  | settledOpen {message : Message} {order stored : Order} {finish : Order → α}
      (stillOpen : stored.status.isFinal = false) :
      Way (settle message order finish)
        [⟨.publish message, .ok ()⟩, ⟨.update order, .ok stored⟩] (.done (finish stored))
  | toAnnounceFinalized {message : Message} {order stored : Order} {finish : Order → α}
      {next : Unit → Flow α} (isFinal : stored.status.isFinal) :
      Way (settle message order finish)
        [⟨.publish message, .ok ()⟩, ⟨.update order, .ok stored⟩]
        (.call (.announceFinalized stored) next)
  | settledFinally {message : Message} {order stored : Order} {finish : Order → α}
      (isFinal : stored.status.isFinal) :
      Way (settle message order finish)
        [⟨.publish message, .ok ()⟩, ⟨.update order, .ok stored⟩, ⟨.announceFinalized stored, ()⟩]
        (.done (finish stored))

variable {heard : List Exchange} {rest : Flow α}

/-- An order is only updated where the closing says so. -/
theorem Way.change {closing : Closing α} {order : Order}
    {next : Except StoreError Order → Flow α}
    (way : closing.Way heard (.call (.update order) next)) : closing.change? = some order := by
  cases way with
  | toUpdate => rfl
  | toSettle => rfl

theorem way_of_goes_insert {order : Order} {finish : Order → α}
    (path : (insert order finish).flow.Goes heard rest) :
    (insert order finish).Way heard rest := by
  rcases Flow.goes_call.mp path with ⟨rfl, rfl⟩ | ⟨result, later, rfl, onward⟩
  · exact .toInsert
  rcases result with error | stored
  · obtain ⟨rfl, rfl⟩ := Flow.goes_stop.mp onward
    exact .notInserted
  rcases Flow.goes_call.mp onward with ⟨rfl, rfl⟩ | ⟨⟨⟩, later, rfl, last⟩
  · exact .toAnnounceCreated
  obtain ⟨rfl, rfl⟩ := Flow.goes_done.mp last
  exact .inserted

theorem way_of_goes_update {order : Order} {finish : Order → α}
    (path : (update order finish).flow.Goes heard rest) :
    (update order finish).Way heard rest := by
  rcases Flow.goes_call.mp path with ⟨rfl, rfl⟩ | ⟨result, later, rfl, onward⟩
  · exact .toUpdate
  rcases result with error | stored
  · obtain ⟨rfl, rfl⟩ := Flow.goes_stop.mp onward
    exact .notUpdated
  obtain ⟨rfl, rfl⟩ := Flow.goes_done.mp onward
  exact .updated

theorem way_of_goes_settle {message : Message} {order : Order} {finish : Order → α}
    (path : (settle message order finish).flow.Goes heard rest) :
    (settle message order finish).Way heard rest := by
  rcases Flow.goes_call.mp path with ⟨rfl, rfl⟩ | ⟨sent, later, rfl, onward⟩
  · exact .toPublish
  rcases sent with error | ⟨⟨⟩⟩
  · obtain ⟨rfl, rfl⟩ := Flow.goes_stop.mp onward
    exact .notPublished
  rcases Flow.goes_call.mp onward with ⟨rfl, rfl⟩ | ⟨result, later, rfl, further⟩
  · exact .toSettle
  rcases result with error | stored
  · obtain ⟨rfl, rfl⟩ := Flow.goes_stop.mp further
    exact .notSettled
  change Flow.Goes (if stored.status.isFinal then _ else _) later rest at further
  split at further
  · rename_i isFinal
    rcases Flow.goes_call.mp further with ⟨rfl, rfl⟩ | ⟨⟨⟩, later, rfl, last⟩
    · exact .toAnnounceFinalized isFinal
    obtain ⟨rfl, rfl⟩ := Flow.goes_done.mp last
    exact .settledFinally isFinal
  · rename_i notFinal
    obtain ⟨rfl, rfl⟩ := Flow.goes_done.mp further
    exact .settledOpen (Bool.eq_false_iff.mpr notFinal)

/-- **Every path of a closing** is one of its ways. -/
theorem way_of_goes {closing : Closing α} (path : closing.flow.Goes heard rest) :
    closing.Way heard rest := by
  cases closing with
  | give value =>
    obtain ⟨rfl, rfl⟩ := Flow.goes_done.mp path
    exact .given
  | insert order finish => exact way_of_goes_insert path
  | update order finish => exact way_of_goes_update path
  | settle message order finish => exact way_of_goes_settle path

end Closing

end Paydesk
