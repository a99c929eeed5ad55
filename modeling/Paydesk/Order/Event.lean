/-
**Published orders.**

When an order is settled other services are sent a copy of it, with parameters in text and the
status as its number.

* `OrderEvent.ofOrder`: what is published of an order.
-/

import Paydesk.Order.Document

namespace Paydesk

/-- What is published of an order. -/
structure OrderEvent where
  id : String
  project : ProjectSnapshot
  projectOrderId : Option String
  projectAccount : String
  description : String
  projectIncome : Amount
  projectIncomeCurrency : String
  projectOutcome : Amount
  projectOutcomeCurrency : String
  projectParams : Dict String String
  method : Option MethodSnapshot
  methodOrderId : Option String
  methodPayerAccount : Option String
  methodOutcome : Amount
  methodOutcomeCurrency : Option String
  methodIncome : Amount
  methodIncomeCurrency : Option String
  transaction : Dict String String
  requisites : Dict String String
  package : Option PackageSnapshot
  statusCode : Int
  isJsonRequest : Bool
  vat : Amount
  inPspCurrency : Amount
  inMerchantCurrency : Amount
  outMerchantCurrency : Amount
  inSystemCurrency : Amount
  projectFee : Option FeeBucket
  pspFee : Option FeeBucket
  systemFee : Option FeeBucket
  payerFee : Option FeeBucket
  createdAt : Instant
  updatedAt : Instant
  methodClosedAt : Option Instant
  projectLastRequestedAt : Option Instant
  deriving DecidableEq

namespace OrderEvent

/-- What is published of an order. -/
def ofOrder (order : Order) : OrderEvent :=
  { id := order.id
    project := order.project
    projectOrderId := order.projectOrderId
    projectAccount := order.projectAccount
    description := order.description
    projectIncome := order.projectIncome
    projectIncomeCurrency := order.projectIncomeCurrency
    projectOutcome := order.projectOutcome
    projectOutcomeCurrency := order.projectOutcomeCurrency
    projectParams := order.projectParams.texts
    method := order.method
    methodOrderId := order.methodOrderId
    methodPayerAccount := order.methodPayerAccount
    methodOutcome := order.methodOutcome
    methodOutcomeCurrency := order.methodOutcomeCurrency
    methodIncome := order.methodIncome
    methodIncomeCurrency := order.methodIncomeCurrency
    transaction := order.transaction.texts
    requisites := order.requisites
    package := order.package
    statusCode := order.status.code
    isJsonRequest := order.isJsonRequest
    vat := order.vat
    inPspCurrency := order.inPspCurrency
    inMerchantCurrency := order.inMerchantCurrency
    outMerchantCurrency := order.outMerchantCurrency
    inSystemCurrency := order.inSystemCurrency
    projectFee := order.projectFee
    pspFee := order.pspFee
    systemFee := order.systemFee
    payerFee := order.payerFee
    createdAt := order.createdAt
    updatedAt := order.updatedAt
    methodClosedAt := order.methodClosedAt
    projectLastRequestedAt := order.projectLastRequestedAt }

/-- A map of texts. -/
def readTexts? (json : Json) : Option (Dict String String) := Json.readTextDict? Json.text? json

/-- The event of a document. -/
def read? : Json → Option OrderEvent :=
  Json.readRecord? do
    let id ← Json.part "id" Json.text?
    let project ← Json.part "project" ProjectSnapshot.read?
    let projectOrderId ← Json.optionalPart "project_order_id" Json.text?
    let projectAccount ← Json.part "project_account" Json.text?
    let description ← Json.part "description" Json.text?
    let projectIncome ← Json.part "project_income_amount" Json.readAmount?
    let projectIncomeCurrency ← Json.part "project_income_currency" Json.text?
    let projectOutcome ← Json.part "project_outcome_amount" Json.readAmount?
    let projectOutcomeCurrency ← Json.part "project_outcome_currency" Json.text?
    let projectParams ← Json.part "project_params" readTexts?
    let method ← Json.optionalPart "payment_method" MethodSnapshot.read?
    let methodOrderId ← Json.optionalPart "payment_method_order_id" Json.text?
    let methodPayerAccount ← Json.optionalPart "payment_method_payer_account" Json.text?
    let methodOutcome ← Json.part "payment_method_outcome_amount" Json.readAmount?
    let methodOutcomeCurrency ← Json.optionalPart "payment_method_outcome_currency" Json.text?
    let methodIncome ← Json.part "payment_method_income_amount" Json.readAmount?
    let methodIncomeCurrency ← Json.optionalPart "payment_method_income_currency" Json.text?
    let transaction ← Json.part "payment_method_txn_params" readTexts?
    let requisites ← Json.part "payment_requisites" readTexts?
    let package ← Json.optionalPart "fixed_package" PackageSnapshot.read?
    let statusCode ← Json.part "status" Json.readInt32?
    let isJsonRequest ← Json.part "is_json_request" Json.readBool?
    let vat ← Json.part "vat_amount" Json.readAmount?
    let inPspCurrency ← Json.part "amount_in_psp_accounting_currency" Json.readAmount?
    let inMerchantCurrency ← Json.part "amount_in_merchant_accounting_currency" Json.readAmount?
    let outMerchantCurrency ← Json.part "amount_out_merchant_accounting_currency" Json.readAmount?
    let inSystemCurrency ←
      Json.part "amount_in_payment_system_accounting_currency" Json.readAmount?
    let projectFee ← Json.optionalPart "project_fee" FeeBucket.read?
    let pspFee ← Json.optionalPart "psp_fee" FeeBucket.read?
    let systemFee ← Json.optionalPart "payment_system_fee" FeeBucket.read?
    let payerFee ← Json.optionalPart "payer_fee" FeeBucket.read?
    let createdAt ← Json.part "created_at" Json.readInstant?
    let updatedAt ← Json.part "updated_at" Json.readInstant?
    let methodClosedAt ← Json.optionalPart "payment_method_order_closed_at" Json.readInstant?
    let projectLastRequestedAt ←
      Json.optionalPart "project_last_requested_at" Json.readInstant?
    return {
      id, project, projectOrderId, projectAccount, description, projectIncome,
      projectIncomeCurrency, projectOutcome, projectOutcomeCurrency, projectParams, method,
      methodOrderId, methodPayerAccount, methodOutcome, methodOutcomeCurrency, methodIncome,
      methodIncomeCurrency, transaction, requisites, package, statusCode, isJsonRequest, vat,
      inPspCurrency, inMerchantCurrency, outMerchantCurrency, inSystemCurrency, projectFee, pspFee,
      systemFee, payerFee, createdAt, updatedAt, methodClosedAt, projectLastRequestedAt }

/-- The document of an event. -/
def write (event : OrderEvent) : Json :=
  .object
    [("id", .text event.id), ("project", event.project.write),
      ("project_order_id", Json.ofText? event.projectOrderId),
      ("project_account", .text event.projectAccount), ("description", .text event.description),
      ("project_income_amount", Json.ofAmount event.projectIncome),
      ("project_income_currency", .text event.projectIncomeCurrency),
      ("project_outcome_amount", Json.ofAmount event.projectOutcome),
      ("project_outcome_currency", .text event.projectOutcomeCurrency),
      ("project_params", Json.writeTextDict .text event.projectParams),
      ("payment_method", Json.writeOption MethodSnapshot.write event.method),
      ("payment_method_order_id", Json.ofText? event.methodOrderId),
      ("payment_method_payer_account", Json.ofText? event.methodPayerAccount),
      ("payment_method_outcome_amount", Json.ofAmount event.methodOutcome),
      ("payment_method_outcome_currency", Json.ofText? event.methodOutcomeCurrency),
      ("payment_method_income_amount", Json.ofAmount event.methodIncome),
      ("payment_method_income_currency", Json.ofText? event.methodIncomeCurrency),
      ("payment_method_txn_params", Json.writeTextDict .text event.transaction),
      ("payment_requisites", Json.writeTextDict .text event.requisites),
      ("fixed_package", Json.writeOption PackageSnapshot.write event.package),
      ("status", .int event.statusCode), ("is_json_request", .bool event.isJsonRequest),
      ("vat_amount", Json.ofAmount event.vat),
      ("amount_in_psp_accounting_currency", Json.ofAmount event.inPspCurrency),
      ("amount_in_merchant_accounting_currency", Json.ofAmount event.inMerchantCurrency),
      ("amount_out_merchant_accounting_currency", Json.ofAmount event.outMerchantCurrency),
      ("amount_in_payment_system_accounting_currency", Json.ofAmount event.inSystemCurrency),
      ("project_fee", Json.writeOption FeeBucket.write event.projectFee),
      ("psp_fee", Json.writeOption FeeBucket.write event.pspFee),
      ("payment_system_fee", Json.writeOption FeeBucket.write event.systemFee),
      ("payer_fee", Json.writeOption FeeBucket.write event.payerFee),
      ("created_at", Json.ofInstant event.createdAt),
      ("updated_at", Json.ofInstant event.updatedAt),
      ("payment_method_order_closed_at", Json.writeOption Json.ofInstant event.methodClosedAt),
      ("project_last_requested_at", Json.writeOption Json.ofInstant event.projectLastRequestedAt)]

end OrderEvent

end Paydesk
