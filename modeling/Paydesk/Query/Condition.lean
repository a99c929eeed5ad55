/-
**Conditions on orders.**

A condition compares attributes with values or combines other conditions.

* `Condition.holds`: whether an order meets a condition.
-/

import Paydesk.Query.Field
import Paydesk.Text.Fold

namespace Paydesk

/-- A condition on orders. -/
inductive Condition where
  | equals (field : OrderField) (value : FieldValue)
  /-- The value is one of a list; an absent value never is. -/
  | oneOf (field : OrderField) (values : List FieldValue)
  /-- The value lies between two bounds, both included; a missing bound leaves the range open. -/
  | between (field : OrderField) (least most : Option FieldValue)
  /-- A text occurs in the value, whatever the case of their letters. -/
  | contains (field : OrderField) (pattern : String)
  | any (conditions : List Condition)
  | all (conditions : List Condition)

namespace Condition

/-- Whether a value is at or above a bound. -/
def atLeast (value : FieldValue) : Option FieldValue → Bool
  | none => true
  | some bound => value.order? bound == some .gt || value.order? bound == some .eq

/-- Whether a value is at or below a bound. -/
def atMost (value : FieldValue) : Option FieldValue → Bool
  | none => true
  | some bound => value.order? bound == some .lt || value.order? bound == some .eq

mutual

/-- Whether an order meets a condition. -/
def holds (order : Order) : Condition → Bool
  | equals field value => field.valueOf order == value
  | oneOf field values =>
    field.valueOf order != .absent && values.contains (field.valueOf order)
  | between field least most =>
    field.valueOf order != .absent && atLeast (field.valueOf order) least
      && atMost (field.valueOf order) most
  | contains field pattern =>
    match (field.valueOf order).text? with
    | some content => Text.contains (Text.fold content) (Text.fold pattern)
    | none => false
  | any conditions => anyHolds order conditions
  | all conditions => allHold order conditions

/-- Whether an order meets one of a list of conditions. -/
def anyHolds (order : Order) : List Condition → Bool
  | [] => false
  | condition :: rest => condition.holds order || anyHolds order rest

/-- Whether an order meets every one of a list of conditions. -/
def allHold (order : Order) : List Condition → Bool
  | [] => true
  | condition :: rest => condition.holds order && allHold order rest

end

end Condition

end Paydesk
