/-
**Checking a request for an order.**

The rules are looked at one after another, and the first that is broken refuses the request: the
forms of fields, the project, the currency, the signature, the payment method, the project's and
the method's limits, the merchant's own order id, the addresses that the project allows to be
given, the payer's place, the package, and the parameters to be passed through.

* `OrderRequest.malformedField?`: the first field of a wrong form;
* `OrderRequest.check`: all rules in order, with what was found on the way.
-/

import Paydesk.Flow.Fees
import Paydesk.Request.Format
import Paydesk.Request.Signature

namespace Paydesk

/-- A payment method that may be used, with the order's amount in its currency. -/
structure ChosenMethod where
  method : PaymentMethod
  system : PaymentSystem
  outcome : Amount
  deriving DecidableEq

/-- What an order keeps of a chosen method. -/
def ChosenMethod.snapshot (chosen : ChosenMethod) : MethodSnapshot :=
  chosen.method.snapshot chosen.system

/-- What was found out about a request on the way through the rules. -/
structure Intake where
  project : Project
  currency : Currency
  method : Option ChosenMethod
  place : Location
  package : Option PackageSnapshot
  params : Params

/-- The payment system of a method that may be used. -/
def PaymentMethod.usableSystem (method : PaymentMethod) : Except Refusal PaymentSystem :=
  if !method.isActive then .error .methodInactive
  else
    match method.system with
    | none => .error .systemNotFound
    | some system => if system.isActive then .ok system else .error .systemInactive

/-- Why an amount is outside of limits. -/
def outsideLimits? (least most amount : Amount) (below above : Refusal) : Option Refusal :=
  if compare amount least == .lt then some below
  else if compare amount most == .gt then some above
  else none

namespace Flow

/-- Stops if there is a reason to refuse. -/
def refuseIf : Option Refusal → Flow Unit
  | some refusal => refuse refusal
  | none => done ()

/-- A value, or a stop for a refusal. -/
def orRefused {α : Type} : Except Refusal α → Flow α
  | .ok value => done value
  | .error refusal => refuse refusal

/-- The method of an id that may be used, and its payment system. -/
def usableMethod (id : String) : Flow (PaymentMethod × PaymentSystem) := do
  let method ← orRefuse .methodNotFound (← Flow.method id)
  return (method, ← orRefused method.usableSystem)

end Flow

/-- An amount in a method's currency, if it is within the method's limits. -/
def PaymentMethod.withinLimits (method : PaymentMethod) (currency : String) (amount : Amount) :
    Flow Amount := do
  let outcome ← .convert currency method.currency amount
  .refuseIf (outsideLimits? method.least method.most outcome .belowMethodLeast .aboveMethodMost)
  return outcome

namespace Project

/-- Stops unless an amount is within a project's limits. -/
def requireLimits (project : Project) (currency : String) (amount : Amount) : Flow Unit := do
  let limited ← .convert currency project.limitsCurrency amount
  .refuseIf
    (outsideLimits? project.least project.most limited .belowProjectLeast .aboveProjectMost)

/-- Whether a package is sold at a price. -/
def isOnOffer (price : Amount) (currency : String) (package : FixedPackage) : Bool :=
  package.isActive && package.price.sameValue price
    && Text.sameLetters package.currency currency

/-- The package of a region at a price; the last of several. -/
def selectPackage (project : Project) (region : String) (price : Amount) (currency : String) :
    Except Refusal PackageSnapshot :=
  match (project.packages.get? region).filter (!·.isEmpty) with
  | none => .error .noPackagesInRegion
  | some packages =>
    match packages.reverse.find? (isOnOffer price currency) with
    | some package => .ok { package.snapshot with region }
    | none => .error .packageNotFound

end Project

namespace OrderRequest

/-- The fields with a fixed form, and whether each is well formed. -/
def formedFields (request : OrderRequest) : List (String × Bool) :=
  [("PP_CURRENCY", request.currency.all isCurrencyCode),
    ("PP_REGION", request.region.all isRegionCode),
    ("PP_URL_VERIFY", request.urlVerify.all isUrl),
    ("PP_URL_NOTIFY", request.urlNotify.all isUrl),
    ("PP_URL_SUCCESS", request.urlSuccess.all isUrl),
    ("PP_URL_FAIL", request.urlFail.all isUrl)]

/-- The first field of a wrong form. -/
def malformedField? (request : OrderRequest) : Option String :=
  (request.formedFields.find? (!·.2)).map (·.1)

/-- The code of the currency that a request names, or else of its project's limits. -/
def currencyCode (request : OrderRequest) (project : Project) : String :=
  match request.currency with
  | some code => Text.upperCase (Text.trimBlank code)
  | none => project.limitsCurrency

/-- Whether a request is signed as it has to be. -/
def isProperlySigned (settings : Settings) (project : Project) (request : OrderRequest) : Bool :=
  match request.signature with
  | some signature => isSignedBy request.rawParams project.secretKey.reveal signature
  | none => !settings.requireSignature

/-- The merchant's own id of an order, if it is not empty. -/
def clientId? (request : OrderRequest) : Option String := request.orderId.filter (· != "")

/-- Whether a project allows the addresses of a request that are told of an order. -/
def notifyUrlsAllowed (request : OrderRequest) (project : Project) : Bool :=
  project.allowsNotifyUrls || (request.urlVerify.isNone && request.urlNotify.isNone)

/-- Whether a project allows the addresses of a request that the payer is sent to. -/
def redirectUrlsAllowed (request : OrderRequest) (project : Project) : Bool :=
  project.allowsRedirectUrls || (request.urlSuccess.isNone && request.urlFail.isNone)

/-- The parameters that are passed through: all other fields but the reserved ones. -/
def passthrough (request : OrderRequest) : Except ParamError Params :=
  (request.other.entries.filter fun entry => !isReserved entry.1).foldlM
    (fun params entry => params.setJson entry.1 entry.2) ∅

/-- The project of a request. -/
def findProject (request : OrderRequest) : Flow Project := do
  let project ← .orRefuse .projectNotFound (← .project request.projectId)
  .require project.isActive .projectInactive
  return project

/-- The method that a request asks for. -/
def findMethod (request : OrderRequest) (project : Project) :
    Flow (Option (PaymentMethod × PaymentSystem)) := do
  match request.method with
  | none => return none
  | some name =>
    let mapping ← .orRefuse .methodNotAllowed (project.mapping? name)
    return some (← .usableMethod mapping.id)

/-- The method that a request asks for with the amount in its currency. -/
def chooseMethod (request : OrderRequest) (currency : String) :
    Option (PaymentMethod × PaymentSystem) → Flow (Option ChosenMethod)
  | none => return none
  | some (method, system) => do
    return some ⟨method, system, ← method.withinLimits currency request.amount⟩

/-- Stops if a project knows another order by the merchant's id. -/
def requireNewClientId (request : OrderRequest) (project : Project) : Flow Unit := do
  match request.clientId? with
  | none => return ()
  | some clientId =>
    let known ← .fetchByClientId project.id clientId
    .require known.isNone .duplicateClientId

/-- The payer's place, nowhere if no address is given. -/
def findPlace (request : OrderRequest) : Flow Location := do
  match request.payerIp with
  | none => return {}
  | some address =>
    match ← Flow.ask (.locate address) with
    | .ok place => return place
    | .error _ => .refuse .unknownRegion

/-- The package that a request pays for, if its project sells packages. -/
def findPackage (request : OrderRequest) (project : Project) (place : Location)
    (currency : String) : Flow (Option PackageSnapshot) := do
  if project.sellsPackages then
    let region := (request.region.or place.country).getD ""
    return some (← .orRefused (project.selectPackage region request.amount currency))
  else return none

/-- All rules in order, with what was found on the way. -/
def check (settings : Settings) (request : OrderRequest) : Flow Intake := do
  .refuseIf (request.malformedField?.map .malformedField)
  let project ← request.findProject
  let currency ← .orRefuse .currencyNotFound (← .currency (request.currencyCode project))
  .require (request.isProperlySigned settings project) .badSignature
  let usable ← request.findMethod project
  project.requireLimits currency.code request.amount
  let method ← request.chooseMethod currency.code usable
  request.requireNewClientId project
  .require (request.notifyUrlsAllowed project) .notifyUrlsNotAllowed
  .require (request.redirectUrlsAllowed project) .redirectUrlsNotAllowed
  let place ← request.findPlace
  let package ← request.findPackage project place currency.code
  let params ← .orRefused (request.passthrough.mapError .badParameter)
  return { project, currency, method, place, package, params }

end OrderRequest

end Paydesk
