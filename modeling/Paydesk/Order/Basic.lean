/-
**Orders.**

An order keeps snapshots of the project, the payment method and the package it was made for, so
that later changes of the catalog leave it as it is.

* `Order`: the record that stores hold;
* `Project.snapshot`, `PaymentMethod.snapshot`, `FixedPackage.snapshot`: what an order keeps;
* `isCanonicalId`: the form of a generated id.
-/

import Paydesk.Catalog
import Paydesk.Order.Fee
import Paydesk.Order.Payer
import Paydesk.Order.Status
import Paydesk.Order.Transaction

namespace Paydesk

/-- A project as it was when an order was made. -/
structure ProjectSnapshot where
  id : String
  name : String
  merchant : Merchant
  secretKey : Secret
  callbackProtocol : String
  callbackCurrency : String
  urlSuccess : Option String
  urlFail : Option String
  urlCheckAccount : Option String
  urlProcessPayment : Option String
  sendsNotifyEmail : Bool
  notifyEmails : List String
  deriving DecidableEq

/-- What an order keeps of a project. -/
def Project.snapshot (project : Project) : ProjectSnapshot :=
  { id := project.id
    name := project.name
    merchant := project.merchant
    secretKey := project.secretKey
    callbackProtocol := project.callbackProtocol
    callbackCurrency := project.callbackCurrency
    urlSuccess := project.urlSuccess
    urlFail := project.urlFail
    urlCheckAccount := project.urlCheckAccount
    urlProcessPayment := project.urlProcessPayment
    sendsNotifyEmail := project.sendsNotifyEmail
    notifyEmails := project.notifyEmails }

/-- A payment method as it was when it was chosen. -/
structure MethodSnapshot where
  id : String
  name : String
  groupAlias : String
  currency : String
  params : MethodParams
  system : PaymentSystem
  deriving DecidableEq

/-- What an order keeps of a payment method and the payment system behind it. -/
def PaymentMethod.snapshot (method : PaymentMethod) (system : PaymentSystem) : MethodSnapshot :=
  { id := method.id
    name := method.name
    groupAlias := method.groupAlias
    currency := method.currency
    params := method.params
    system }

/-- A package as it was when it was sold. -/
structure PackageSnapshot where
  id : String
  name : String
  region : String
  price : Amount
  currency : String
  deriving DecidableEq

/-- What an order keeps of a package. -/
def FixedPackage.snapshot (package : FixedPackage) : PackageSnapshot :=
  { id := package.id
    name := package.name
    region := package.region
    price := package.price
    currency := package.currency }

/-- Whether a text has the form of a generated id: 32 hexadecimal digits in small letters. -/
def isCanonicalId (text : String) : Bool :=
  text.toList.length == 32 && text.toList.all Text.isHexDigit

/-- An order. Amounts that are booked in some accounting currency say in which; a project's income
is what the merchant asked for and its outcome what the merchant is told of, a method's outcome is
what the payer is asked for and its income what the payment system reports. -/
structure Order where
  id : String
  /-- Goes up by one with every change in a store. -/
  version : Int64
  project : ProjectSnapshot
  projectOrderId : Option String
  projectAccount : String
  description : String
  projectIncome : Amount
  projectIncomeCurrency : String
  projectOutcome : Amount
  projectOutcomeCurrency : String
  projectParams : Params
  payer : Payer
  method : Option MethodSnapshot
  methodTerminalId : Option String
  methodOrderId : Option String
  methodPayerAccount : Option String
  methodOutcome : Amount
  methodOutcomeCurrency : Option String
  methodIncome : Amount
  methodIncomeCurrency : Option String
  methodClosedAt : Option Instant
  transaction : TransactionParams
  requisites : Dict String String
  package : Option PackageSnapshot
  vat : Amount
  projectFee : Option FeeBucket
  pspFee : Option FeeBucket
  systemFee : Option FeeBucket
  payerFee : Option FeeBucket
  inPspCurrency : Amount
  inMerchantCurrency : Amount
  outMerchantCurrency : Amount
  inSystemCurrency : Amount
  urlSuccess : Option String
  urlFail : Option String
  urlVerify : Option String
  urlNotify : Option String
  isJsonRequest : Bool
  status : Status
  createdAt : Instant
  updatedAt : Instant
  projectLastRequestedAt : Option Instant
  deriving DecidableEq

namespace Order

/-- The id of the merchant whose project an order belongs to. -/
def merchantId (order : Order) : String := order.project.merchant.id

/-- The name of the handler of an order's payment method. -/
def handlerName? (order : Order) : Option String := order.method.map (·.params.handler)

end Order

end Paydesk
