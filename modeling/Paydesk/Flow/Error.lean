/-
**Why a flow stops.**

A refusal tells the caller what is wrong with the request. A failure is the desk's own; callers
only hear that they should try again later. A sum of money that no decimal can hold stops a flow as
well.

* `Refusal.name`, `Failure.name`: both in a word;
* `Refusal.message`, `Failure.message`: both in a sentence;
* `Stop.publicMessage`: what callers may be told.
-/

import Paydesk.Catalog.Table
import Paydesk.Event.Broker
import Paydesk.Exchange.Rate
import Paydesk.Network.Location
import Paydesk.Payment.Handler
import Paydesk.Pricing.Vat
import Paydesk.Store.Error

namespace Paydesk

/-- What is wrong with a request. -/
inductive Refusal where
  | projectNotFound
  | projectInactive
  | currencyNotFound
  | badSignature
  | methodNotAllowed
  | methodNotFound
  | methodInactive
  | systemNotFound
  | systemInactive
  | belowProjectLeast
  | aboveProjectMost
  | belowMethodLeast
  | aboveMethodMost
  | duplicateClientId
  | notifyUrlsNotAllowed
  | redirectUrlsNotAllowed
  | unknownRegion
  | noPackagesInRegion
  | packageNotFound
  | badParameter (error : ParamError)
  | missingField (name : String)
  | malformedField (name : String)
  | orderNotFound
  | alreadyComplete
  | paymentExists
  | noPayment
  deriving DecidableEq

/-- The name of a refusal. -/
def Refusal.name : Refusal → String
  | projectNotFound => "ProjectNotFound"
  | projectInactive => "ProjectInactive"
  | currencyNotFound => "CurrencyNotFound"
  | badSignature => "SignatureInvalid"
  | methodNotAllowed => "PaymentMethodNotAllowed"
  | methodNotFound => "PaymentMethodNotFound"
  | methodInactive => "PaymentMethodInactive"
  | systemNotFound => "PaymentSystemNotFound"
  | systemInactive => "PaymentSystemInactive"
  | belowProjectLeast => "AmountBelowProjectMinimum"
  | aboveProjectMost => "AmountAboveProjectMaximum"
  | belowMethodLeast => "AmountBelowPaymentMethodMinimum"
  | aboveMethodMost => "AmountAbovePaymentMethodMaximum"
  | duplicateClientId => "DuplicateProjectOrderId"
  | notifyUrlsNotAllowed => "DynamicNotifyUrlsNotAllowed"
  | redirectUrlsNotAllowed => "DynamicRedirectUrlsNotAllowed"
  | unknownRegion => "PayerRegionUnknown"
  | noPackagesInRegion => "FixedPackageForRegionNotFound"
  | packageNotFound => "FixedPackageNotFound"
  | badParameter _ => "InvalidParameter"
  | missingField _ => "RequiredFieldMissing"
  | malformedField _ => "MalformedField"
  | orderNotFound => "OrderNotFound"
  | alreadyComplete => "OrderAlreadyComplete"
  | paymentExists => "PaymentAlreadyCreated"
  | noPayment => "PaymentNotCreated"

/-- The text of a refusal. -/
def Refusal.message : Refusal → String
  | projectNotFound => "project with specified identifier not found"
  | projectInactive => "project with specified identifier is inactive"
  | currencyNotFound => "currency received from request not found"
  | badSignature => "order request signature is invalid"
  | methodNotAllowed => "payment method not specified for project"
  | methodNotFound => "payment method with specified id not found"
  | methodInactive => "payment method with specified is inactive"
  | systemNotFound => "payment system for specified payment method not found"
  | systemInactive => "payment system for specified payment method is inactive"
  | belowProjectLeast => "order amount is lower than min allowed payment amount for project"
  | aboveProjectMost => "order amount is greater than max allowed payment amount for project"
  | belowMethodLeast =>
    "order amount is lower than min allowed payment amount for payment method"
  | aboveMethodMost =>
    "order amount is greater than max allowed payment amount for payment method"
  | duplicateClientId => "request with specified project order identifier processed early"
  | notifyUrlsNotAllowed => "dynamic verify url or notify url not allowed for project"
  | redirectUrlsNotAllowed => "dynamic payer redirect urls not allowed for project"
  | unknownRegion => "payer region can't be found"
  | noPackagesInRegion => "project not have fixed packages for payer region"
  | packageNotFound => "project not have fixed package with specified amount or currency"
  | badParameter error => s!"invalid passthrough parameter: {error.message}"
  | missingField name => s!"required field \"{name}\" not found"
  | malformedField name => s!"field \"{name}\" has an invalid format"
  | orderNotFound => "order with specified identifier not found"
  | alreadyComplete => "order with specified identifier payed early"
  | paymentExists => "payment for order with specified identifier created early"
  | noPayment => "order can't create. try request later"

/-- What went wrong at the desk. -/
inductive Failure where
  | conversion (error : RateError)
  | commission (error : CommissionError)
  | vat (error : VatError)
  | catalog (error : CatalogError)
  | store (error : StoreError)
  | changedConcurrently (orderId : String)
  | publish (error : BrokerError)
  | handler (error : HandlerError)
  | unknownIncomeCurrency (code : String)
  | unknownPspCurrency
  | noMethod (orderId : String)
  | noOrderReturned
  | orderIdChanged (expected returned : String)
  | illegalStep (orderId : String) (before after : Status)
  deriving DecidableEq

namespace Failure

/-- A store's error; a lost race for an order is one of its own. -/
def ofStore : StoreError → Failure
  | .conflict id _ _ => changedConcurrently id
  | error => store error

/-- The name of a failure. -/
def name : Failure → String
  | conversion _ => "Conversion"
  | commission _ => "Commission"
  | vat _ => "Vat"
  | catalog _ => "Catalog"
  | store _ => "Storage"
  | changedConcurrently _ => "ConcurrentModification"
  | publish _ => "Publish"
  | handler _ => "HandlerUnavailable"
  | unknownIncomeCurrency _ => "UnknownPaymentSystemCurrency"
  | unknownPspCurrency => "PspAccountingCurrencyMissing"
  | noMethod _ => "MissingPaymentMethod"
  | noOrderReturned => "HandlerReturnedNoOrder"
  | orderIdChanged _ _ => "HandlerChangedOrderId"
  | illegalStep _ _ _ => "IllegalTransition"

/-- The text of a failure. -/
def message : Failure → String
  | conversion error => s!"Currency conversion failed. {error.message}"
  | commission error => s!"Commission calculation failed. {error.message}"
  | vat error => s!"VAT calculation failed. {error.message}"
  | catalog error => s!"Catalog lookup failed. {error.message}"
  | store error => s!"Storage failure. {error.message}"
  | changedConcurrently orderId => s!"Order {orderId} was modified concurrently"
  | publish error => s!"Could not publish order event. {error.message}"
  | handler error => s!"No payment handler is available. {error.message}"
  | unknownIncomeCurrency code => s!"unknown currency received from payment system: {code}"
  | unknownPspCurrency => "unknown PSP accounting currency"
  | noMethod orderId =>
    s!"Order {orderId} has no payment method, so its payment system amounts cannot be derived"
  | noOrderReturned => "The payment handler reported success without returning the order"
  | orderIdChanged expected returned =>
    s!"The payment handler returned order {returned} while processing order {expected}"
  | illegalStep orderId before after =>
    s!"The payment handler tried to move order {orderId} from {before.name} to {after.name}"

end Failure

/-- Why a flow stops. -/
inductive Stop where
  | refused (refusal : Refusal)
  | failed (failure : Failure)
  | overflow (overflow : Overflow)
  deriving DecidableEq

namespace Stop

/-- A store's error; a version that cannot go up is no failure of the store. -/
def ofStore : StoreError → Stop
  | .overflow cause => overflow cause
  | error => failed (.ofStore error)

/-- What callers are told of everything that is not their own doing. -/
def opaqueMessage : String := "order can't create. try request later"

/-- The text of a stop. -/
def message : Stop → String
  | refused refusal => refusal.message
  | failed failure => failure.message
  | overflow cause => cause.message

/-- What callers may be told. -/
def publicMessage : Stop → String
  | refused refusal => refusal.message
  | failed _ | overflow _ => opaqueMessage

/-- Whether the request was refused. -/
def isRefusal : Stop → Bool
  | refused _ => true
  | failed _ | overflow _ => false

end Stop

end Paydesk
