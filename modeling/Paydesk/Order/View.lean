/-
**Orders in listings.**

A listing shows an order without blocks of zeros: a financial block is left out where there is
nothing to show, and fees and requisites where no payment method was chosen.

* `OrderView.ofOrder`: what a listing shows of an order.
-/

import Paydesk.Order.Document

namespace Paydesk

/-- Something with an id and a name. -/
structure NamedItem where
  id : String
  name : String
  deriving DecidableEq

/-- An amount with its currency. -/
structure Money where
  amount : Amount
  currency : String
  deriving DecidableEq

/-- A status with its number and its words. -/
structure StatusView where
  code : Int
  name : String
  description : String
  deriving DecidableEq

/-- What a listing shows of an order. -/
structure OrderView where
  id : String
  project : NamedItem
  account : String
  projectOrderId : Option String
  payer : Payer
  projectIncome : Money
  methodIncome : Option Money
  projectOutcome : Option Money
  method : Option NamedItem
  pspFee : Option FeeBucket
  systemFee : Option FeeBucket
  projectFee : Option FeeBucket
  payerFee : Option FeeBucket
  /-- Requisites and transaction fields by what they are called on a receipt. -/
  requisites : Dict String String
  package : Option PackageSnapshot
  status : StatusView
  vat : Amount
  createdAt : Instant
  confirmedAt : Option Instant
  closedAt : Option Instant
  deriving DecidableEq

/-- A status with its number and its words. -/
def Status.view (status : Status) : StatusView := ⟨status.code, status.name, status.description⟩

namespace OrderView

/-- Requisites with well-known keys and the fields of the transaction, which win, by label. -/
def labelled (order : Order) : Dict String String :=
  let requisites := order.requisites.entries.filterMap fun (key, value) =>
    (TransactionField.ofKey? key).map fun field => (field.label, value)
  let fields := order.transaction.known.entries.map fun (field, value) => (field.label, value)
  Dict.ofList (requisites ++ fields)

/-- What the payment system reported as income, if it is anything. -/
def methodIncome? (order : Order) : Option Money :=
  match order.methodIncomeCurrency with
  | some currency => if order.methodIncome.isZero then none else some ⟨order.methodIncome, currency⟩
  | none => none

/-- What the merchant is paid, if it is anything. -/
def projectOutcome? (order : Order) : Option Money :=
  if order.outMerchantCurrency.isZero then none
  else some ⟨order.outMerchantCurrency, order.project.merchant.accountingCurrency⟩

/-- What a listing shows of an order. -/
def ofOrder (order : Order) : OrderView :=
  let chosen := order.method.isSome
  { id := order.id
    project := ⟨order.project.id, order.project.name⟩
    account := order.projectAccount
    projectOrderId := order.projectOrderId
    payer := order.payer
    projectIncome := ⟨order.projectIncome, order.projectIncomeCurrency⟩
    methodIncome := methodIncome? order
    projectOutcome := projectOutcome? order
    method := order.method.map fun method => ⟨method.id, method.name⟩
    pspFee := if chosen then order.pspFee else none
    systemFee := if chosen then order.systemFee else none
    projectFee := if chosen then order.projectFee else none
    payerFee := if chosen then order.payerFee else none
    requisites := if chosen then labelled order else ∅
    package := order.package
    status := order.status.view
    vat := order.vat
    createdAt := order.createdAt
    confirmedAt := order.methodClosedAt
    closedAt := order.projectLastRequestedAt }

end OrderView

/-! ### Documents -/

/-- The item of a document. -/
def NamedItem.read? : Json → Option NamedItem :=
  Json.readRecord? do
    let id ← Json.part "id" Json.text?
    let name ← Json.part "name" Json.text?
    return { id, name }

/-- The document of an item. -/
def NamedItem.write (item : NamedItem) : Json :=
  .object [("id", .text item.id), ("name", .text item.name)]

/-- The amount of a document. -/
def Money.read? : Json → Option Money :=
  Json.readRecord? do
    let amount ← Json.part "amount" Json.readAmount?
    let currency ← Json.part "currency" Json.text?
    return { amount, currency }

/-- The document of an amount with its currency. -/
def Money.write (money : Money) : Json :=
  .object [("amount", Json.ofAmount money.amount), ("currency", .text money.currency)]

/-- The status of a document. -/
def StatusView.read? : Json → Option StatusView :=
  Json.readRecord? do
    let code ← Json.part "status" Json.readInt32?
    let name ← Json.part "name" Json.text?
    let description ← Json.part "description" Json.text?
    return { code, name, description }

/-- The document of a status. -/
def StatusView.write (status : StatusView) : Json :=
  .object
    [("status", .int status.code), ("name", .text status.name),
      ("description", .text status.description)]

namespace OrderView

/-- The view of a document. -/
def read? : Json → Option OrderView :=
  Json.readRecord? do
    let id ← Json.part "id" Json.text?
    let project ← Json.part "project" NamedItem.read?
    let account ← Json.part "account" Json.text?
    let projectOrderId ← Json.optionalPart "project_order_id" Json.text?
    let payer ← Json.part "payer_data" Payer.read?
    let projectIncome ← Json.part "project_amount_income" Money.read?
    let methodIncome ← Json.optionalPart "payment_method_amount_income" Money.read?
    let projectOutcome ← Json.optionalPart "project_amount_outcome" Money.read?
    let method ← Json.optionalPart "payment_method" NamedItem.read?
    let pspFee ← Json.optionalPart "psp_fee" FeeBucket.read?
    let systemFee ← Json.optionalPart "payment_system_fee" FeeBucket.read?
    let projectFee ← Json.optionalPart "project_fee" FeeBucket.read?
    let payerFee ← Json.optionalPart "payer_fee" FeeBucket.read?
    let requisites ← Json.part "payment_requisites" (Json.readTextDict? Json.text?)
    let package ← Json.optionalPart "fixed_package" PackageSnapshot.read?
    let status ← Json.part "status" StatusView.read?
    let vat ← Json.part "vat_amount" Json.readAmount?
    let createdAt ← Json.part "created_at" Json.readInstant?
    let confirmedAt ← Json.optionalPart "confirmed_at" Json.readInstant?
    let closedAt ← Json.optionalPart "closed_at" Json.readInstant?
    return {
      id, project, account, projectOrderId, payer, projectIncome, methodIncome, projectOutcome,
      method, pspFee, systemFee, projectFee, payerFee, requisites, package, status, vat, createdAt,
      confirmedAt, closedAt }

/-- The document of a view. -/
def write (view : OrderView) : Json :=
  .object
    ([("id", .text view.id), ("project", view.project.write), ("account", .text view.account),
        ("project_order_id", Json.ofText? view.projectOrderId),
        ("payer_data", view.payer.write),
        ("project_amount_income", view.projectIncome.write)]
      ++ Json.optionalField "payment_method_amount_income" Money.write view.methodIncome
      ++ Json.optionalField "project_amount_outcome" Money.write view.projectOutcome
      ++ Json.optionalField "payment_method" NamedItem.write view.method
      ++ Json.optionalField "psp_fee" FeeBucket.write view.pspFee
      ++ Json.optionalField "payment_system_fee" FeeBucket.write view.systemFee
      ++ Json.optionalField "project_fee" FeeBucket.write view.projectFee
      ++ Json.optionalField "payer_fee" FeeBucket.write view.payerFee
      ++ Json.optionalField "payment_requisites" (Json.writeTextDict .text)
        (if view.requisites.isEmpty then none else some view.requisites)
      ++ [("fixed_package", Json.writeOption PackageSnapshot.write view.package),
        ("status", view.status.write), ("vat_amount", Json.ofAmount view.vat),
        ("created_at", Json.ofInstant view.createdAt),
        ("confirmed_at", Json.writeOption Json.ofInstant view.confirmedAt),
        ("closed_at", Json.writeOption Json.ofInstant view.closedAt)])

end OrderView

end Paydesk
