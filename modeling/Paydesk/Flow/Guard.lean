/-
**Guards of the order's life.**

Only a new order is paid, only an order with a payment hears from the payment system, and an order
that is settled stays as it is. A handler may hand back no other order than the one it was given,
and its status may stay or take one step.

* `Status.paymentRefusal?`: why no payment is created for an order;
* `Status.noticeGuard`: what becomes of a notification;
* `Order.checkReturned`: what a handler may hand back.
-/

import Paydesk.Flow.Error

namespace Paydesk

namespace Status

/-- Why no payment is created for an order with this status; a new one has no reason. -/
def paymentRefusal? : Status → Option Refusal
  | new => none
  | complete => some .alreadyComplete
  | created | rejected | declined | canceled => some .paymentExists

end Status

/-- What becomes of a notification. -/
inductive NoticeGuard where
  | proceed
  /-- The order is settled; the payment system is told how. -/
  | settled (message : String)
  deriving DecidableEq

/-- What becomes of a notification for an order with this status. -/
def Status.noticeGuard : Status → Except Refusal NoticeGuard
  | new => .error .noPayment
  | created | rejected => .ok .proceed
  | complete => .ok (.settled "order with specified identifier payed early")
  | declined => .ok (.settled "payment system decline order with specified identifier early")
  | canceled => .ok (.settled "payment system cancel order with specified identifier early")

/-- Whether a handler may hand back an order for the stored one. -/
def Order.checkReturned (stored returned : Order) : Except Failure Unit :=
  if returned.id ≠ stored.id then .error (.orderIdChanged stored.id returned.id)
  else if returned.status = stored.status ∨ stored.status.canBecome returned.status then .ok ()
  else .error (.illegalStep stored.id stored.status returned.status)

end Paydesk
