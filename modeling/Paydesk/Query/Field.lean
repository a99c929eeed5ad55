/-
**Attributes of orders that queries look at.**

* `OrderField.valueOf`: the value of an attribute of an order;
* `FieldValue.order?`: the order of two values of one kind;
* `FieldValue.display`: a value in text.
-/

import Paydesk.Order.Basic

namespace Paydesk

/-- An attribute of orders. -/
inductive OrderField where
  | id
  | projectId
  | projectName
  | projectAccount
  | projectOrderId
  | packageName
  | methodId
  | methodName
  | methodPayerAccount
  | payerCountry
  | payerPhone
  | payerEmail
  | status
  | createdAt
  | methodClosedAt
  deriving DecidableEq

/-- The value of an attribute; an attribute that is absent has none. -/
inductive FieldValue where
  | absent
  | text (text : String)
  | number (number : Int)
  | time (instant : Instant)
  deriving DecidableEq

namespace FieldValue

/-- A text that may be absent. -/
def ofText? : Option String → FieldValue
  | some content => text content
  | none => absent

/-- The text of a value that has one. -/
def text? : FieldValue → Option String
  | text content => some content
  | _ => none

/-- The order of two values of one kind. -/
def order? : FieldValue → FieldValue → Option Ordering
  | text first, text second => some (compare first second)
  | number first, number second => some (compare first second)
  | time first, time second => some (first.order second)
  | _, _ => none

/-- A value in text. -/
def display : FieldValue → String
  | absent => "null"
  | text content => s!"'{content}'"
  | number value => Text.writeInt value
  | time instant => instant.writeLong

end FieldValue

namespace OrderField

/-- All attributes. -/
def all : List OrderField :=
  [id, projectId, projectName, projectAccount, projectOrderId, packageName, methodId, methodName,
    methodPayerAccount, payerCountry, payerPhone, payerEmail, status, createdAt, methodClosedAt]

/-- The name of an attribute. -/
def name : OrderField → String
  | id => "Id"
  | projectId => "ProjectId"
  | projectName => "ProjectName"
  | projectAccount => "ProjectAccount"
  | projectOrderId => "ProjectOrderId"
  | packageName => "FixedPackageName"
  | methodId => "PaymentMethodId"
  | methodName => "PaymentMethodName"
  | methodPayerAccount => "PaymentMethodPayerAccount"
  | payerCountry => "PayerCountry"
  | payerPhone => "PayerPhone"
  | payerEmail => "PayerEmail"
  | status => "Status"
  | createdAt => "CreatedAt"
  | methodClosedAt => "PaymentMethodClosedAt"

/-- The attribute of a name. -/
def ofName? (name : String) : Option OrderField := all.find? fun field => field.name == name

/-- The value of an attribute of an order. -/
def valueOf (order : Order) : OrderField → FieldValue
  | id => .text order.id
  | projectId => .text order.project.id
  | projectName => .text order.project.name
  | projectAccount => .text order.projectAccount
  | projectOrderId => .ofText? order.projectOrderId
  | packageName => .ofText? (order.package.map (·.name))
  | methodId => .ofText? (order.method.map (·.id))
  | methodName => .ofText? (order.method.map (·.name))
  | methodPayerAccount => .ofText? order.methodPayerAccount
  | payerCountry => .ofText? order.payer.country
  | payerPhone => .ofText? order.payer.phone
  | payerEmail => .ofText? order.payer.email
  | status => .number order.status.code
  | createdAt => .time order.createdAt
  | methodClosedAt =>
    match order.methodClosedAt with
    | some instant => .time instant
    | none => .absent

end OrderField

end Paydesk
