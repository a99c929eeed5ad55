/-
**Hooks.**

Code inside the desk may ask to hear of new orders and of orders that were settled for good. An
event that cannot be sent is dropped.

* `Hooks.announceCreated`, `Hooks.announceFinalized`: sends an order to whoever asked.
-/

import Paydesk.Event.Channel
import Paydesk.Order.Basic

namespace Paydesk

/-- The channels of those who asked. -/
structure Hooks where
  created : Option (Channel Order) := none
  finalized : Option (Channel Order) := none

namespace Hooks

/-- No one asked. -/
def none : Hooks := {}

/-- Sends a new order. -/
def announceCreated (hooks : Hooks) (order : Order) : Hooks :=
  { hooks with created := hooks.created.map (·.publish order) }

/-- Sends an order that was settled for good. -/
def announceFinalized (hooks : Hooks) (order : Order) : Hooks :=
  { hooks with finalized := hooks.finalized.map (·.publish order) }

end Hooks

end Paydesk
