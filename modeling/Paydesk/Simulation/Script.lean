/-
**Scripted handlers.**

A scripted handler gives the same answer to every request. It may hand back the order that it was
given with some fields replaced, and may store that order once more before it answers.

* `Order.change?`: the change that replaces a field by what a document gives;
* `Script.read?`: the script of a document;
* `Script.handler`: the handler that follows a script.
-/

import Paydesk.Order.Document
import Paydesk.Payment.Handler

namespace Paydesk

/-- The change that replaces a field of an order by what a document gives; other fields stay. -/
def Order.change? (name : String) (json : Json) : Option (Order → Order) :=
  let optionally {α : Type} (read : Json → Option α) (set : Option α → Order → Order) :
      Option (Order → Order) := (Json.readOption? read json).map set
  match name with
  | "id" => json.text?.map fun id order => { order with id }
  | "version" => (Json.readInt64? json).map fun version order => { order with version }
  | "status" => (Status.read? json).map fun status order => { order with status }
  | "project_account" =>
    json.text?.map fun projectAccount order => { order with projectAccount }
  | "project_outcome_currency" =>
    json.text?.map fun projectOutcomeCurrency order => { order with projectOutcomeCurrency }
  | "project_last_requested_at" =>
    optionally Json.readInstant? fun projectLastRequestedAt order =>
      { order with projectLastRequestedAt }
  | "payment_method" => optionally MethodSnapshot.read? fun method order => { order with method }
  | "payment_method_order_id" =>
    optionally Json.text? fun methodOrderId order => { order with methodOrderId }
  | "payment_method_payer_account" =>
    optionally Json.text? fun methodPayerAccount order => { order with methodPayerAccount }
  | "payment_method_income_amount" =>
    (Json.readAmount? json).map fun methodIncome order => { order with methodIncome }
  | "payment_method_income_currency" =>
    optionally Json.text? fun methodIncomeCurrency order => { order with methodIncomeCurrency }
  | "payment_method_order_closed_at" =>
    optionally Json.readInstant? fun methodClosedAt order => { order with methodClosedAt }
  | "payment_method_txn_params" =>
    (TransactionParams.read? json).map fun transaction order => { order with transaction }
  | _ => some fun order => order

/-- What a handler answers to every request. -/
structure Script where
  verdict : Verdict := .accepted
  message : String := ""
  redirectUrl : Option String := none
  /-- What is done to the order that is handed back, if any is. -/
  change : Option (Order → Order) := none
  /-- Whether the order is stored once more before the answer. -/
  interferes : Bool := false

namespace Script

/-- The verdict of a word; any other word accepts. -/
def readVerdict : Option String → Verdict
  | some "temporary" => .pending
  | some "error_validation" => .invalid
  | some "error_system" => .broken
  | _ => .accepted

/-- The change of all fields of an object; anything else hands no order back. -/
def readChange? : Option Json → Option (Option (Order → Order))
  | some (.object fields) => do
    let changes ← fields.mapM fun (name, value) => Order.change? name value
    return some fun order => changes.foldl (fun order change => change order) order
  | _ => some none

/-- The script of a document. -/
def read? (json : Json) : Option Script := do
  let text (name : String) : Option String := json.field? name >>= Json.text?
  let change ← readChange? (json.field? "order")
  return {
    verdict := readVerdict (text "status")
    message := (text "message").getD ""
    redirectUrl := text "redirect_url"
    change
    interferes := (json.field? "interfere" >>= Json.readBool?).getD false }

/-- What a script answers about an order. -/
def response (script : Script) (order : Order) : PaymentResponse :=
  { verdict := script.verdict
    message := script.message
    redirectUrl := script.redirectUrl
    order := script.change.map (· order) }

/-- The handler that follows a script. -/
def handler (script : Script) : PaymentHandler :=
  ⟨fun order _ => script.response order, fun order _ => script.response order⟩

end Script

end Paydesk
