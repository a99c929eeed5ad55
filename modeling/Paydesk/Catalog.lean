/-
**The catalog.**

What the desk knows of currencies, merchants and their projects, payment methods and the payment
systems behind them, and the packages that a project sells at fixed prices.

* `Project.mapping?`: the method that an alias stands for; the latest one added counts;
* `Project.sellsPackages`: whether any region has packages;
* `Project.read?`, `PaymentMethod.read?` and their kin: the catalog's documents.
-/

import Paydesk.Json.Record
import Paydesk.Secret

namespace Paydesk

/-- A currency with its numeric and its letter code. -/
structure Currency where
  number : Int
  code : String
  name : String
  isActive : Bool := true
  deriving DecidableEq

/-- A merchant, who settles in one currency. -/
structure Merchant where
  id : String
  name : String
  accountingCurrency : String
  isVatEnabled : Bool
  /-- Whether part of the commission is shifted onto the payer. -/
  shiftsCommission : Bool
  deriving DecidableEq

/-- How a payment method is reached. -/
structure MethodParams where
  /-- The name of the handler that talks to the payment system. -/
  handler : String
  terminal : String
  externalId : String
  other : Dict String String
  deriving DecidableEq

/-- A provider that carries out payments. -/
structure PaymentSystem where
  id : String
  name : String
  country : String
  accountingCurrency : String
  accountingPeriod : String
  isActive : Bool
  deriving DecidableEq

/-- A way to pay. -/
structure PaymentMethod where
  id : String
  name : String
  groupAlias : String
  currency : String
  least : Amount
  most : Amount
  isActive : Bool
  params : MethodParams
  system : Option PaymentSystem
  deriving DecidableEq

/-- A payment method that a project takes under some alias. -/
structure MethodMapping where
  id : String
  addedAt : Instant
  deriving DecidableEq

/-- Something sold at a fixed price in a region. -/
structure FixedPackage where
  id : String
  name : String
  region : String
  price : Amount
  currency : String
  isActive : Bool
  deriving DecidableEq

/-- A merchant's project. -/
structure Project where
  id : String
  merchant : Merchant
  name : String
  isActive : Bool
  secretKey : Secret
  callbackProtocol : String
  /-- The currency in which the project hears of payments. -/
  callbackCurrency : String
  /-- The currency of the least and the most amount. -/
  limitsCurrency : String
  least : Amount
  most : Amount
  allowsNotifyUrls : Bool
  allowsRedirectUrls : Bool
  urlSuccess : Option String
  urlFail : Option String
  urlCheckAccount : Option String
  urlProcessPayment : Option String
  sendsNotifyEmail : Bool
  notifyEmails : List String
  /-- The methods by the alias that a request selects them with. -/
  methods : Dict String (List MethodMapping)
  /-- The packages by region. -/
  packages : Dict String (List FixedPackage)

namespace Project

/-- Whether the project sells packages in any region. -/
def sellsPackages (project : Project) : Bool := project.packages.values.any (!·.isEmpty)

/-- The mapping added last; among several added at one time the last of the list. -/
def latest? : List MethodMapping → Option MethodMapping
  | [] => none
  | mapping :: rest =>
    match latest? rest with
    | some later => if mapping.addedAt.atMost later.addedAt then some later else some mapping
    | none => some mapping

/-- The method that an alias stands for. -/
def mapping? (project : Project) (name : String) : Option MethodMapping :=
  project.methods.get? name >>= latest?

end Project

/-! ### Documents -/

namespace Merchant

/-- The merchant of a document. -/
def read? : Json → Option Merchant :=
  Json.readRecord? do
    let id ← Json.part "id" Json.text?
    let name ← Json.part "name" Json.text?
    let accountingCurrency ← Json.part "accounting_currency" Json.text?
    let isVatEnabled ← Json.part "is_vat_enabled" Json.readBool?
    let shiftsCommission ← Json.part "is_commission_to_user_enabled" Json.readBool?
    return { id, name, accountingCurrency, isVatEnabled, shiftsCommission }

/-- The document of a merchant. -/
def write (merchant : Merchant) : Json :=
  .object
    [("id", .text merchant.id), ("name", .text merchant.name),
      ("accounting_currency", .text merchant.accountingCurrency),
      ("is_vat_enabled", .bool merchant.isVatEnabled),
      ("is_commission_to_user_enabled", .bool merchant.shiftsCommission)]

end Merchant

namespace MethodParams

/-- The parameters of a document. -/
def read? : Json → Option MethodParams :=
  Json.readRecord? do
    let handler ← Json.part "handler" Json.text?
    let terminal ← Json.part "terminal" Json.text?
    let externalId ← Json.part "external_id" Json.text?
    let other ← Json.defaultedPart "other" ∅ (Json.readTextDict? Json.text?)
    return { handler, terminal, externalId, other }

/-- The document of parameters. -/
def write (params : MethodParams) : Json :=
  .object
    [("handler", .text params.handler), ("terminal", .text params.terminal),
      ("external_id", .text params.externalId), ("other", Json.writeTextDict .text params.other)]

end MethodParams

namespace PaymentSystem

/-- The payment system of a document. -/
def read? : Json → Option PaymentSystem :=
  Json.readRecord? do
    let id ← Json.part "id" Json.text?
    let name ← Json.part "name" Json.text?
    let country ← Json.part "country" Json.text?
    let accountingCurrency ← Json.part "accounting_currency" Json.text?
    let accountingPeriod ← Json.part "accounting_period" Json.text?
    let isActive ← Json.part "is_active" Json.readBool?
    return { id, name, country, accountingCurrency, accountingPeriod, isActive }

/-- The document of a payment system. -/
def write (system : PaymentSystem) : Json :=
  .object
    [("id", .text system.id), ("name", .text system.name), ("country", .text system.country),
      ("accounting_currency", .text system.accountingCurrency),
      ("accounting_period", .text system.accountingPeriod),
      ("is_active", .bool system.isActive)]

end PaymentSystem

namespace PaymentMethod

/-- The payment method of a document. -/
def read? : Json → Option PaymentMethod :=
  Json.readRecord? do
    let id ← Json.part "id" Json.text?
    let name ← Json.part "name" Json.text?
    let groupAlias ← Json.part "group_alias" Json.text?
    let currency ← Json.part "currency" Json.text?
    let least ← Json.part "min_payment_amount" Json.readAmount?
    let most ← Json.part "max_payment_amount" Json.readAmount?
    let isActive ← Json.part "is_active" Json.readBool?
    let params ← Json.part "params" MethodParams.read?
    let system ← Json.optionalPart "payment_system" PaymentSystem.read?
    return { id, name, groupAlias, currency, least, most, isActive, params, system }

end PaymentMethod

/-- The mapping of a document, which gives its time in seconds since 1970. -/
def MethodMapping.read? : Json → Option MethodMapping :=
  Json.readRecord? do
    let id ← Json.part "id" Json.text?
    let addedAt ← Json.part "added_at" fun json =>
      Json.readInt64? json >>= fun seconds => Instant.ofSeconds? seconds.toInt
    return { id, addedAt }

/-- The package of a document, which does not name its region. -/
def FixedPackage.read? (region : String) : Json → Option FixedPackage :=
  Json.readRecord? do
    let id ← Json.part "id" Json.text?
    let name ← Json.part "name" Json.text?
    let price ← Json.part "price" Json.readAmount?
    let currency ← Json.part "currency" Json.text?
    let isActive ← Json.part "is_active" Json.readBool?
    return { id, name, region, price, currency, isActive }

namespace Project

/-- The packages of a document by region. -/
def readPackages? (json : Json) : Option (Dict String (List FixedPackage)) := do
  let regions ← json.fields?
  let entries ← regions.entries.mapM fun (region, packages) => do
    return (region, ← Json.readList? (FixedPackage.read? region) packages)
  return Dict.ofList entries

/-- The project of a document. -/
def read? : Json → Option Project :=
  Json.readRecord? do
    let id ← Json.part "id" Json.text?
    let merchant ← Json.part "merchant" Merchant.read?
    let name ← Json.part "name" Json.text?
    let isActive ← Json.part "is_active" Json.readBool?
    let secretKey ← Json.part "secret_key" Secret.read?
    let callbackProtocol ← Json.part "callback_protocol" Json.text?
    let callbackCurrency ← Json.part "callback_currency" Json.text?
    let limitsCurrency ← Json.part "limits_currency" Json.text?
    let least ← Json.part "min_payment_amount" Json.readAmount?
    let most ← Json.part "max_payment_amount" Json.readAmount?
    let allowsNotifyUrls ← Json.part "is_allow_dynamic_notify_urls" Json.readBool?
    let allowsRedirectUrls ← Json.part "is_allow_dynamic_redirect_urls" Json.readBool?
    let urlSuccess ← Json.optionalPart "url_redirect_success" Json.text?
    let urlFail ← Json.optionalPart "url_redirect_fail" Json.text?
    let urlCheckAccount ← Json.optionalPart "url_check_account" Json.text?
    let urlProcessPayment ← Json.optionalPart "url_process_payment" Json.text?
    let sendsNotifyEmail ← Json.part "send_notify_email" Json.readBool?
    let notifyEmails ← Json.part "notify_emails" (Json.readList? Json.text?)
    let methods ←
      Json.part "payment_methods" (Json.readTextDict? (Json.readList? MethodMapping.read?))
    let packages ← Json.part "fixed_packages" readPackages?
    return {
      id, merchant, name, isActive, secretKey, callbackProtocol, callbackCurrency,
      limitsCurrency, least, most, allowsNotifyUrls, allowsRedirectUrls, urlSuccess, urlFail,
      urlCheckAccount, urlProcessPayment, sendsNotifyEmail, notifyEmails, methods, packages }

end Project

end Paydesk
