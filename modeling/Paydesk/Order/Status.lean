/-
**The status of an order.**

An order starts as new, is created or rejected in the payment system, and ends declined, canceled
or complete. Statuses only move forward.

* `Status.canBecome`: the single steps;
* `Status.isFinal`: the statuses that no step leaves;
* `Status.code`, `Status.ofCode?`, `Status.name`, `Status.ofName?`: numbers and names.
-/

namespace Paydesk

/-- How far an order has come. -/
inductive Status where
  | new
  | created
  | rejected
  | declined
  | canceled
  | complete
  deriving DecidableEq

namespace Status

/-- All statuses, in the order of their codes. -/
def all : List Status := [new, created, rejected, declined, canceled, complete]

/-- The number of a status. -/
def code : Status → Int
  | new => 0
  | created => 1
  | rejected => 2
  | declined => 3
  | canceled => 4
  | complete => 10

/-- The status of a number. -/
def ofCode? (code : Int) : Option Status := all.find? fun status => status.code == code

/-- The name of a status. -/
def name : Status → String
  | new => "New"
  | created => "PaymentSystemCreate"
  | rejected => "PaymentSystemRejectOnCreate"
  | declined => "PaymentSystemDeclined"
  | canceled => "PaymentSystemCanceled"
  | complete => "Complete"

/-- The status of a name. -/
def ofName? (name : String) : Option Status := all.find? fun status => status.name == name

/-- A status in words. -/
def description : Status → String
  | new => "Order created"
  | created => "Payment created in the payment system"
  | rejected => "Payment system rejected the payment on creation"
  | declined => "Payment declined by the payment system"
  | canceled => "Payment canceled by the payment system"
  | complete => "Order successfully complete. Notification successfully send to project"

/-- Whether an order with this status is settled for good. -/
def isFinal : Status → Bool
  | declined | canceled | complete => true
  | new | created | rejected => false

/-- Whether one step leads from a status to another. -/
def canBecome : Status → Status → Bool
  | new, next => next == created || next == rejected
  | created, next | rejected, next => next.isFinal
  | _, _ => false

/-- The statuses that one step leads to. -/
def next (status : Status) : List Status := all.filter status.canBecome

end Status

end Paydesk
