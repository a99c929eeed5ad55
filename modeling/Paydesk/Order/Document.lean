/-
**The document of an order.**

An order is written field by field; statuses are written as numbers.

* `Order.read?`, `Order.write`: orders as documents;
* `Order.writeWith`: the same with parameters written in a given way.
-/

import Paydesk.Order.Basic

namespace Paydesk

namespace Status

/-- The status of a document. -/
def read? (json : Json) : Option Status := Json.readInt32? json >>= ofCode?

/-- The document of a status. -/
def write (status : Status) : Json := .int status.code

end Status

namespace ProjectSnapshot

/-- The project of a document. -/
def read? : Json → Option ProjectSnapshot :=
  Json.readRecord? do
    let id ← Json.part "id" Json.text?
    let name ← Json.part "name" Json.text?
    let merchant ← Json.part "merchant" Merchant.read?
    let secretKey ← Json.part "secret_key" Secret.read?
    let callbackProtocol ← Json.part "callback_protocol" Json.text?
    let callbackCurrency ← Json.part "callback_currency" Json.text?
    let urlSuccess ← Json.optionalPart "url_success" Json.text?
    let urlFail ← Json.optionalPart "url_fail" Json.text?
    let urlCheckAccount ← Json.optionalPart "url_check_account" Json.text?
    let urlProcessPayment ← Json.optionalPart "url_process_payment" Json.text?
    let sendsNotifyEmail ← Json.part "send_notify_email" Json.readBool?
    let notifyEmails ← Json.part "notify_emails" (Json.readList? Json.text?)
    return {
      id, name, merchant, secretKey, callbackProtocol, callbackCurrency, urlSuccess, urlFail,
      urlCheckAccount, urlProcessPayment, sendsNotifyEmail, notifyEmails }

/-- The document of a project. -/
def write (project : ProjectSnapshot) : Json :=
  .object
    [("id", .text project.id), ("name", .text project.name),
      ("merchant", project.merchant.write), ("secret_key", project.secretKey.write),
      ("callback_protocol", .text project.callbackProtocol),
      ("callback_currency", .text project.callbackCurrency),
      ("url_success", Json.ofText? project.urlSuccess),
      ("url_fail", Json.ofText? project.urlFail),
      ("url_check_account", Json.ofText? project.urlCheckAccount),
      ("url_process_payment", Json.ofText? project.urlProcessPayment),
      ("send_notify_email", .bool project.sendsNotifyEmail),
      ("notify_emails", Json.writeList .text project.notifyEmails)]

end ProjectSnapshot

namespace MethodSnapshot

/-- The payment method of a document. -/
def read? : Json → Option MethodSnapshot :=
  Json.readRecord? do
    let id ← Json.part "id" Json.text?
    let name ← Json.part "name" Json.text?
    let groupAlias ← Json.part "group_alias" Json.text?
    let currency ← Json.part "currency" Json.text?
    let params ← Json.part "params" MethodParams.read?
    let system ← Json.part "payment_system" PaymentSystem.read?
    return { id, name, groupAlias, currency, params, system }

/-- The document of a payment method. -/
def write (method : MethodSnapshot) : Json :=
  .object
    [("id", .text method.id), ("name", .text method.name),
      ("group_alias", .text method.groupAlias), ("currency", .text method.currency),
      ("params", method.params.write), ("payment_system", method.system.write)]

end MethodSnapshot

namespace PackageSnapshot

/-- The package of a document. -/
def read? : Json → Option PackageSnapshot :=
  Json.readRecord? do
    let id ← Json.part "id" Json.text?
    let name ← Json.part "name" Json.text?
    let region ← Json.part "region" Json.text?
    let price ← Json.part "price" Json.readAmount?
    let currency ← Json.part "currency" Json.text?
    return { id, name, region, price, currency }

/-- The document of a package. -/
def write (package : PackageSnapshot) : Json :=
  .object
    [("id", .text package.id), ("name", .text package.name), ("region", .text package.region),
      ("price", Json.ofAmount package.price), ("currency", .text package.currency)]

end PackageSnapshot

namespace Order

/-- The order of a document. -/
def read? : Json → Option Order :=
  Json.readRecord? do
    let id ← Json.part "id" Json.text?
    let version ← Json.part "version" Json.readInt64?
    let project ← Json.part "project" ProjectSnapshot.read?
    let projectOrderId ← Json.optionalPart "project_order_id" Json.text?
    let projectAccount ← Json.part "project_account" Json.text?
    let description ← Json.part "description" Json.text?
    let projectIncome ← Json.part "project_income_amount" Json.readAmount?
    let projectIncomeCurrency ← Json.part "project_income_currency" Json.text?
    let projectOutcome ← Json.part "project_outcome_amount" Json.readAmount?
    let projectOutcomeCurrency ← Json.part "project_outcome_currency" Json.text?
    let projectParams ← Json.part "project_params" Params.read?
    let payer ← Json.part "payer_data" Payer.read?
    let method ← Json.optionalPart "payment_method" MethodSnapshot.read?
    let methodTerminalId ← Json.optionalPart "payment_method_terminal_id" Json.text?
    let methodOrderId ← Json.optionalPart "payment_method_order_id" Json.text?
    let methodPayerAccount ← Json.optionalPart "payment_method_payer_account" Json.text?
    let methodOutcome ← Json.part "payment_method_outcome_amount" Json.readAmount?
    let methodOutcomeCurrency ← Json.optionalPart "payment_method_outcome_currency" Json.text?
    let methodIncome ← Json.part "payment_method_income_amount" Json.readAmount?
    let methodIncomeCurrency ← Json.optionalPart "payment_method_income_currency" Json.text?
    let methodClosedAt ← Json.optionalPart "payment_method_order_closed_at" Json.readInstant?
    let transaction ← Json.part "payment_method_txn_params" TransactionParams.read?
    let requisites ← Json.part "payment_requisites" (Json.readTextDict? Json.text?)
    let package ← Json.optionalPart "fixed_package" PackageSnapshot.read?
    let vat ← Json.part "vat_amount" Json.readAmount?
    let projectFee ← Json.optionalPart "project_fee" FeeBucket.read?
    let pspFee ← Json.optionalPart "psp_fee" FeeBucket.read?
    let systemFee ← Json.optionalPart "payment_system_fee" FeeBucket.read?
    let payerFee ← Json.optionalPart "payer_fee" FeeBucket.read?
    let inPspCurrency ← Json.part "amount_in_psp_accounting_currency" Json.readAmount?
    let inMerchantCurrency ← Json.part "amount_in_merchant_accounting_currency" Json.readAmount?
    let outMerchantCurrency ← Json.part "amount_out_merchant_accounting_currency" Json.readAmount?
    let inSystemCurrency ←
      Json.part "amount_in_payment_system_accounting_currency" Json.readAmount?
    let urlSuccess ← Json.optionalPart "url_success" Json.text?
    let urlFail ← Json.optionalPart "url_fail" Json.text?
    let urlVerify ← Json.optionalPart "url_verify" Json.text?
    let urlNotify ← Json.optionalPart "url_notify" Json.text?
    let isJsonRequest ← Json.part "is_json_request" Json.readBool?
    let status ← Json.part "status" Status.read?
    let createdAt ← Json.part "created_at" Json.readInstant?
    let updatedAt ← Json.part "updated_at" Json.readInstant?
    let projectLastRequestedAt ←
      Json.optionalPart "project_last_requested_at" Json.readInstant?
    return {
      id, version, project, projectOrderId, projectAccount, description, projectIncome,
      projectIncomeCurrency, projectOutcome, projectOutcomeCurrency, projectParams, payer, method,
      methodTerminalId, methodOrderId, methodPayerAccount, methodOutcome, methodOutcomeCurrency,
      methodIncome, methodIncomeCurrency, methodClosedAt, transaction, requisites, package, vat,
      projectFee, pspFee, systemFee, payerFee, inPspCurrency, inMerchantCurrency,
      outMerchantCurrency, inSystemCurrency, urlSuccess, urlFail, urlVerify, urlNotify,
      isJsonRequest, status, createdAt, updatedAt, projectLastRequestedAt }

/-- The document of an order, its parameters written in a given way. -/
def writeWith (writeParams : Params → Json) (order : Order) : Json :=
  .object
    [("id", .text order.id), ("version", .int order.version.toInt),
      ("project", order.project.write),
      ("project_order_id", Json.ofText? order.projectOrderId),
      ("project_account", .text order.projectAccount), ("description", .text order.description),
      ("project_income_amount", Json.ofAmount order.projectIncome),
      ("project_income_currency", .text order.projectIncomeCurrency),
      ("project_outcome_amount", Json.ofAmount order.projectOutcome),
      ("project_outcome_currency", .text order.projectOutcomeCurrency),
      ("project_params", writeParams order.projectParams), ("payer_data", order.payer.write),
      ("payment_method", Json.writeOption MethodSnapshot.write order.method),
      ("payment_method_terminal_id", Json.ofText? order.methodTerminalId),
      ("payment_method_order_id", Json.ofText? order.methodOrderId),
      ("payment_method_payer_account", Json.ofText? order.methodPayerAccount),
      ("payment_method_outcome_amount", Json.ofAmount order.methodOutcome),
      ("payment_method_outcome_currency", Json.ofText? order.methodOutcomeCurrency),
      ("payment_method_income_amount", Json.ofAmount order.methodIncome),
      ("payment_method_income_currency", Json.ofText? order.methodIncomeCurrency),
      ("payment_method_order_closed_at", Json.writeOption Json.ofInstant order.methodClosedAt),
      ("payment_method_txn_params", order.transaction.writeWith writeParams),
      ("payment_requisites", Json.writeTextDict .text order.requisites),
      ("fixed_package", Json.writeOption PackageSnapshot.write order.package),
      ("vat_amount", Json.ofAmount order.vat),
      ("project_fee", Json.writeOption FeeBucket.write order.projectFee),
      ("psp_fee", Json.writeOption FeeBucket.write order.pspFee),
      ("payment_system_fee", Json.writeOption FeeBucket.write order.systemFee),
      ("payer_fee", Json.writeOption FeeBucket.write order.payerFee),
      ("amount_in_psp_accounting_currency", Json.ofAmount order.inPspCurrency),
      ("amount_in_merchant_accounting_currency", Json.ofAmount order.inMerchantCurrency),
      ("amount_out_merchant_accounting_currency", Json.ofAmount order.outMerchantCurrency),
      ("amount_in_payment_system_accounting_currency", Json.ofAmount order.inSystemCurrency),
      ("url_success", Json.ofText? order.urlSuccess), ("url_fail", Json.ofText? order.urlFail),
      ("url_verify", Json.ofText? order.urlVerify), ("url_notify", Json.ofText? order.urlNotify),
      ("is_json_request", .bool order.isJsonRequest), ("status", order.status.write),
      ("created_at", Json.ofInstant order.createdAt),
      ("updated_at", Json.ofInstant order.updatedAt),
      ("project_last_requested_at", Json.writeOption Json.ofInstant order.projectLastRequestedAt)]

/-- The document of an order. -/
def write (order : Order) : Json := order.writeWith Params.write

end Order

end Paydesk
