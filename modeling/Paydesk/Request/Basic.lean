/-
**Requests.**

A merchant asks for an order, a payer asks to pay it, and a payment system reports on it.

* `OrderRequest`, `PaymentRequest`, `Notification`: the three requests with their documents;
* `OrderRequest.display`: a request for an order in a line of text;
* `isReserved`: the names of fields that the desk reads itself.
-/

import Paydesk.Order.Payer

namespace Paydesk

/-- Whether a field is one that the desk reads itself. -/
def isReserved (name : String) : Bool := "PP_".toList.isPrefixOf name.toList

/-- A merchant's request for an order. -/
structure OrderRequest where
  projectId : String
  amount : Amount
  account : String
  currency : Option String := none
  orderId : Option String := none
  description : Option String := none
  /-- The alias of a payment method. -/
  method : Option String := none
  urlVerify : Option String := none
  urlNotify : Option String := none
  urlSuccess : Option String := none
  urlFail : Option String := none
  payerEmail : Option String := none
  payerPhone : Option String := none
  region : Option String := none
  payerIp : Option Address := none
  signature : Option String := none
  /-- Every field as it was sent, for the signature. -/
  rawParams : Dict String String := ∅
  /-- Fields to be passed through. -/
  other : Dict String Json := ∅
  isJsonRequest : Bool := false

/-- A payer's request to pay an order. -/
structure PaymentRequest where
  orderId : String
  methodId : String
  email : Option String := none
  requisites : Dict String String := ∅
  deriving DecidableEq

/-- A payment system's report on an order. -/
structure Notification where
  orderId : String
  payload : Json

namespace OrderRequest

/-- A request in a line of text. -/
def display (request : OrderRequest) : String :=
  let currency := request.currency.getD "(default currency)"
  let line := s!"project {request.projectId} / account {request.account} / "
    ++ s!"{request.amount.write} {currency}"
  match request.orderId with
  | some id => s!"{line} / order {id}"
  | none => line

/-- The request of a document. -/
def read? : Json → Option OrderRequest :=
  Json.readRecord? do
    let projectId ← Json.part "project_id" Json.text?
    let amount ← Json.part "amount" Json.readAmount?
    let currency ← Json.optionalPart "currency" Json.text?
    let account ← Json.part "account" Json.text?
    let orderId ← Json.optionalPart "order_id" Json.text?
    let description ← Json.optionalPart "description" Json.text?
    let method ← Json.optionalPart "payment_method" Json.text?
    let urlVerify ← Json.optionalPart "url_verify" Json.text?
    let urlNotify ← Json.optionalPart "url_notify" Json.text?
    let urlSuccess ← Json.optionalPart "url_success" Json.text?
    let urlFail ← Json.optionalPart "url_fail" Json.text?
    let payerEmail ← Json.optionalPart "payer_email" Json.text?
    let payerPhone ← Json.optionalPart "payer_phone" Json.text?
    let region ← Json.optionalPart "region" Json.text?
    let payerIp ← Json.optionalPart "payer_ip" Address.ofJson?
    let signature ← Json.optionalPart "signature" Json.text?
    let rawParams ← Json.defaultedPart "raw_params" ∅ (Json.readTextDict? Json.text?)
    let other ← Json.defaultedPart "other" ∅ (Json.readTextDict? some)
    let isJsonRequest ← Json.defaultedPart "is_json_request" false Json.readBool?
    return {
      projectId, amount, currency, account, orderId, description, method, urlVerify, urlNotify,
      urlSuccess, urlFail, payerEmail, payerPhone, region, payerIp, signature, rawParams, other,
      isJsonRequest }

/-- The document of a request. -/
def write (request : OrderRequest) : Json :=
  .object
    [("project_id", .text request.projectId), ("amount", Json.ofAmount request.amount),
      ("currency", Json.ofText? request.currency), ("account", .text request.account),
      ("order_id", Json.ofText? request.orderId),
      ("description", Json.ofText? request.description),
      ("payment_method", Json.ofText? request.method),
      ("url_verify", Json.ofText? request.urlVerify),
      ("url_notify", Json.ofText? request.urlNotify),
      ("url_success", Json.ofText? request.urlSuccess),
      ("url_fail", Json.ofText? request.urlFail),
      ("payer_email", Json.ofText? request.payerEmail),
      ("payer_phone", Json.ofText? request.payerPhone), ("region", Json.ofText? request.region),
      ("payer_ip", Json.writeOption Address.toJson request.payerIp),
      ("signature", Json.ofText? request.signature),
      ("raw_params", Json.writeTextDict .text request.rawParams),
      ("other", Json.writeTextDict id request.other),
      ("is_json_request", .bool request.isJsonRequest)]

end OrderRequest

namespace PaymentRequest

/-- The request of a document. -/
def read? : Json → Option PaymentRequest :=
  Json.readRecord? do
    let orderId ← Json.part "order_id" Json.text?
    let methodId ← Json.part "payment_method_id" Json.text?
    let email ← Json.optionalPart "email" Json.text?
    let requisites ← Json.defaultedPart "requisites" ∅ (Json.readTextDict? Json.text?)
    return { orderId, methodId, email, requisites }

/-- The document of a request. -/
def write (request : PaymentRequest) : Json :=
  .object
    [("order_id", .text request.orderId), ("payment_method_id", .text request.methodId),
      ("email", Json.ofText? request.email),
      ("requisites", Json.writeTextDict .text request.requisites)]

end PaymentRequest

namespace Notification

/-- The notification of a document. -/
def read? : Json → Option Notification :=
  Json.readRecord? do
    let orderId ← Json.part "order_id" Json.text?
    let payload ← Json.part "payload" some
    return { orderId, payload }

/-- The document of a notification. -/
def write (notification : Notification) : Json :=
  .object [("order_id", .text notification.orderId), ("payload", notification.payload)]

end Notification

end Paydesk
