/-
**Fee buckets.**

A fee is kept in the currency of the payment method that produced it, and in the accounting
currency of every party that books it.

* `FeeBucket.inMerchantCurrency`: the merchant's figure, nothing if the merchant does not book it.
-/

import Paydesk.Json.Record

namespace Paydesk

/-- A fee and its figures in accounting currencies. -/
structure FeeBucket where
  amount : Amount
  merchant : Option Amount := none
  psp : Option Amount := none
  system : Option Amount := none
  deriving DecidableEq

namespace FeeBucket

/-- The merchant's figure. -/
def inMerchantCurrency (bucket : FeeBucket) : Amount := bucket.merchant.getD .unset

/-- The bucket of a document. -/
def read? : Json → Option FeeBucket :=
  Json.readRecord? do
    let amount ← Json.part "amount_payment_method_currency" Json.readAmount?
    let merchant ← Json.trailingPart "amount_merchant_currency" Json.readAmount?
    let psp ← Json.trailingPart "amount_psp_currency" Json.readAmount?
    let system ← Json.trailingPart "amount_payment_system_currency" Json.readAmount?
    return { amount, merchant, psp, system }

/-- The document of a bucket. -/
def write (bucket : FeeBucket) : Json :=
  .object
    (("amount_payment_method_currency", Json.ofAmount bucket.amount)
      :: (Json.optionalField "amount_merchant_currency" Json.ofAmount bucket.merchant
        ++ Json.optionalField "amount_psp_currency" Json.ofAmount bucket.psp
        ++ Json.optionalField "amount_payment_system_currency" Json.ofAmount bucket.system))

end FeeBucket

end Paydesk
