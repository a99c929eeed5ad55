/-
**Equal orders.**

Two orders are equal where they differ at most in how their amounts and numbers show: in trailing
zeros and in the sign of zero. Everything else is compared as it is.

* `Order.mapNumbers`: an order with other amounts and other numbers in its parameters;
* `Order.Same`: equality of orders, by their normal forms;
* `Order.same_mapNumbers`: **amounts and numbers of the same value make an equal order**.
-/

import Paydesk.Order.Basic
import Paydesk.Proofs.Decimal.Value
import Paydesk.Proofs.Dict

namespace Paydesk

/-- A package with another price. -/
def PackageSnapshot.mapAmounts (amounts : Amount → Amount) (package : PackageSnapshot) :
    PackageSnapshot :=
  { package with price := amounts package.price }

/-- A bucket with other figures. -/
def FeeBucket.mapAmounts (amounts : Amount → Amount) (bucket : FeeBucket) : FeeBucket where
  amount := amounts bucket.amount
  merchant := bucket.merchant.map amounts
  psp := bucket.psp.map amounts
  system := bucket.system.map amounts

/-- A parameter with another number. -/
def Param.mapNumber (numbers : Decimal → Decimal) : Param → Param
  | number value => number (numbers value)
  | other => other

namespace Order

/-- An order with other amounts and with other numbers in its parameters. -/
def mapNumbers (amounts : Amount → Amount) (numbers : Decimal → Decimal) (order : Order) : Order :=
  { order with
    projectIncome := amounts order.projectIncome
    projectOutcome := amounts order.projectOutcome
    projectParams := order.projectParams.mapValues (Param.mapNumber numbers)
    methodOutcome := amounts order.methodOutcome
    methodIncome := amounts order.methodIncome
    transaction :=
      { order.transaction with
        additional := order.transaction.additional.mapValues (Param.mapNumber numbers) }
    package := order.package.map (·.mapAmounts amounts)
    vat := amounts order.vat
    projectFee := order.projectFee.map (·.mapAmounts amounts)
    pspFee := order.pspFee.map (·.mapAmounts amounts)
    systemFee := order.systemFee.map (·.mapAmounts amounts)
    payerFee := order.payerFee.map (·.mapAmounts amounts)
    inPspCurrency := amounts order.inPspCurrency
    inMerchantCurrency := amounts order.inMerchantCurrency
    outMerchantCurrency := amounts order.outMerchantCurrency
    inSystemCurrency := amounts order.inSystemCurrency }

/-- The order that shows every amount and number in its shortest form. -/
def normal (order : Order) : Order := order.mapNumbers Amount.normal Decimal.normal

/-- Two orders differ at most in how their amounts and numbers show. -/
def Same (first second : Order) : Prop := first.normal = second.normal

instance (first second : Order) : Decidable (Same first second) :=
  inferInstanceAs (Decidable (first.normal = second.normal))

theorem Same.refl (order : Order) : order.Same order := rfl

theorem mapNumbers_mapNumbers (laterAmounts amounts : Amount → Amount)
    (laterNumbers numbers : Decimal → Decimal) (order : Order) :
    (order.mapNumbers amounts numbers).mapNumbers laterAmounts laterNumbers
      = order.mapNumbers (laterAmounts ∘ amounts) (laterNumbers ∘ numbers) := by
  have param : Param.mapNumber laterNumbers ∘ Param.mapNumber numbers
      = Param.mapNumber (laterNumbers ∘ numbers) := by
    funext param
    cases param <;> rfl
  have bucket : FeeBucket.mapAmounts laterAmounts ∘ FeeBucket.mapAmounts amounts
      = FeeBucket.mapAmounts (laterAmounts ∘ amounts) := by
    funext bucket
    simp [FeeBucket.mapAmounts]
  have package : PackageSnapshot.mapAmounts laterAmounts ∘ PackageSnapshot.mapAmounts amounts
      = PackageSnapshot.mapAmounts (laterAmounts ∘ amounts) := rfl
  simp only [mapNumbers, Dict.mapValues_mapValues, param, Option.map_map, bucket, package,
    Function.comp_apply]

/-- **Amounts and numbers of the same value make an equal order.** -/
theorem same_mapNumbers {amounts : Amount → Amount} {numbers : Decimal → Decimal}
    (amount : ∀ value, (amounts value).sameValue value)
    (number : ∀ value, (numbers value).sameValue value) (order : Order) :
    (order.mapNumbers amounts numbers).Same order := by
  have sameAmounts : Amount.normal ∘ amounts = Amount.normal :=
    funext fun value => Amount.normal_eq_normal_iff.mpr (amount value)
  have sameNumbers : Decimal.normal ∘ numbers = Decimal.normal :=
    funext fun value => Decimal.normal_eq_normal_iff.mpr (number value)
  unfold Same normal
  rw [mapNumbers_mapNumbers, sameAmounts, sameNumbers]

end Order

end Paydesk
