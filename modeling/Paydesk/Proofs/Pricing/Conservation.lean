/-
**Commissions are conserved.**

The commission on an order is shared twice: between those who keep it, the payment system and the
provider, and between those who bear it, the project and, where the merchant shifts a part, the
payer. Tax and the shifted part go on top of what the payer is charged, and tax and commission are
both reckoned on the amount before tax. What the three services answer is arbitrary here: shares of
any sign, in any proportion, and rates that differ from one conversion to the next.

* `Order.Allocates`, `allocates_of_goes`: **all that is heard while fees are found**, with the fees;
* `FeeBucket.BookedIn`: a bucket with the figures of some parties, each a conversion of its amount;
* `Order.Shares`, `Allocates.shares`: what is asked for, on what amount, and who books what;
* `Allocation.Conserves`, `Allocates.conserves`: **the sums are exact while they fit**;
* `commissions_conserved`: both of a run at a store, and what becomes of the order and the store.
-/

import Paydesk.Proofs.Decimal.Minor
import Paydesk.Proofs.Desk.Tables
import Paydesk.Proofs.Flow.Failure
import Paydesk.Proofs.Store.Refinement

namespace Paydesk

open Paydesk.Flow

namespace Call

/-- Whether a call asks for the tax on an amount. -/
def isVat : Call → Bool
  | vat _ _ _ => true
  | _ => false

/-- Whether a call asks for the commission on an amount. -/
def isCommission : Call → Bool
  | commission _ _ _ => true
  | _ => false

end Call

/-! ### Booked figures -/

/-- **A party's figure.** The conversion of an amount into the currency of the party's books, and
none for a party that does not book it. -/
inductive Converted (heard : List Exchange) (currency : String) (amount : Amount) :
    Option String → Option Amount → Prop where
  | absent : Converted heard currency amount none none
  | booked {party : String} {figure : Amount}
      (answered : ⟨.convert currency party amount, .ok figure⟩ ∈ heard) :
      Converted heard currency amount (some party) (some figure)

theorem Converted.mono {heard wider : List Exchange} {currency : String} {amount : Amount}
    {party : Option String} {figure : Option Amount}
    (converted : Converted heard currency amount party figure) (within : heard ⊆ wider) :
    Converted wider currency amount party figure := by
  cases converted with
  | absent => exact .absent
  | booked answered => exact .booked (within answered)

/-- **A bucket as it is booked**: exactly the parties with a currency have a figure, and it is the
conversion of the bucket's own amount. -/
structure FeeBucket.BookedIn (heard : List Exchange) (currency : String) (bucket : FeeBucket)
    (merchant psp system : Option String) : Prop where
  merchant : Converted heard currency bucket.amount merchant bucket.merchant
  psp : Converted heard currency bucket.amount psp bucket.psp
  system : Converted heard currency bucket.amount system bucket.system

/-- A bucket is booked by whatever else is heard. -/
theorem FeeBucket.BookedIn.mono {heard wider : List Exchange} {currency : String}
    {bucket : FeeBucket} {merchant psp system : Option String}
    (booked : bucket.BookedIn heard currency merchant psp system) (within : heard ⊆ wider) :
    bucket.BookedIn wider currency merchant psp system :=
  ⟨booked.merchant.mono within, booked.psp.mono within, booked.system.mono within⟩

namespace Order

/-! ### All that is heard while fees are found -/

/-- The tax on an order: what is heard, the tax, and the order's amount with it. -/
inductive Taxes (order : Order) : List Exchange → Amount → Amount → Prop where
  | off (untaxed : order.project.merchant.isVatEnabled = false) :
      Taxes order [] .zero order.methodOutcome
  | on {vat taxed : Amount} (enabled : order.project.merchant.isVatEnabled = true)
      (added : order.methodOutcome.add vat = .ok taxed) :
      Taxes order
        [⟨.vat (order.payer.country.getD "") order.payer.subdivision order.methodOutcome, .ok vat⟩]
        vat taxed

/-- The part that is shifted onto the payer: what is heard, what the project still owes, what the
payer is charged, and the payer's fee. -/
inductive Shifts (merchant : Merchant) (currency : String) (commission : Commission)
    (total charged : Amount) : List Exchange → Amount → Amount → Option FeeBucket → Prop where
  | off (kept : merchant.shiftsCommission = false) :
      Shifts merchant currency commission total charged [] total charged none
  | on {left more inMerchant : Amount} (enabled : merchant.shiftsCommission = true)
      (taken : total.sub commission.payer = .ok left)
      (added : charged.add commission.payer = .ok more) :
      Shifts merchant currency commission total charged
        [⟨.convert currency merchant.accountingCurrency commission.payer, .ok inMerchant⟩]
        left more (some { amount := commission.payer, merchant := some inMerchant })

/-- The conversions of an allocation after any shift, one after another. -/
def booking (settings : Settings) (merchant : Merchant) (method : MethodSnapshot)
    (owed : Amount) (commission : Commission)
    (owedInMerchant pspInMerchant pspInPsp systemInSystem systemInMerchant : Amount) :
    List Exchange :=
  [⟨.convert method.currency merchant.accountingCurrency owed, .ok owedInMerchant⟩,
    ⟨.convert method.currency merchant.accountingCurrency commission.psp, .ok pspInMerchant⟩,
    ⟨.convert method.currency settings.pspCurrency commission.psp, .ok pspInPsp⟩,
    ⟨.convert method.currency method.system.accountingCurrency commission.method,
      .ok systemInSystem⟩,
    ⟨.convert method.currency merchant.accountingCurrency commission.method,
      .ok systemInMerchant⟩]

/-- **The fees of an order**, and all that is heard while they are found: the tax, the commission,
the payer's conversion and those of the other fees. -/
inductive Allocates (settings : Settings) (order : Order) (method : MethodSnapshot) :
    List Exchange → Allocation → Prop where
  | found {taxHeard shiftHeard : List Exchange} {vat taxed total owed charged : Amount}
      {commission : Commission} {payerFee : Option FeeBucket}
      {owedInMerchant pspInMerchant pspInPsp systemInSystem systemInMerchant : Amount}
      (taxes : order.Taxes taxHeard vat taxed)
      (sum : commission.total = .ok total)
      (shifts : Shifts order.project.merchant method.currency commission total taxed shiftHeard
        owed charged payerFee) :
      Allocates settings order method
        (taxHeard ++
          ⟨.commission order.project.id method.id order.methodOutcome, .ok commission⟩ ::
            (shiftHeard ++ booking settings order.project.merchant method owed commission
              owedInMerchant pspInMerchant pspInPsp systemInSystem systemInMerchant))
        { commission, vat, charged, payerFee
          projectFee := { amount := owed, merchant := some owedInMerchant }
          pspFee :=
            { amount := commission.psp, merchant := some pspInMerchant, psp := some pspInPsp }
          systemFee :=
            { amount := commission.method
              merchant := some systemInMerchant
              system := some systemInSystem } }

variable {settings : Settings} {order : Order} {method : MethodSnapshot} {heard : List Exchange}
  {allocation : Allocation}

theorem shifts_of_goes {merchant : Merchant} {currency : String} {commission : Commission}
    {total charged owed more : Amount} {payerFee : Option FeeBucket}
    (path : (shift merchant currency commission total charged).Goes heard
      (.done (owed, more, payerFee))) :
    Shifts merchant currency commission total charged heard owed more payerFee := by
  unfold shift at path
  split at path
  · rename_i enabled
    simp only [goes_bind_done, goes_unlessOverflow, goes_convert] at path
    obtain ⟨left, _, _, rfl, ⟨rfl, taken⟩, path⟩ := path
    obtain ⟨more, _, _, rfl, ⟨rfl, added⟩, path⟩ := path
    obtain ⟨inMerchant, _, _, rfl, rfl, path⟩ := path
    obtain ⟨rfl, same⟩ := goes_done.mp path
    cases same
    exact .on enabled taken added
  · rename_i kept
    obtain ⟨rfl, same⟩ := goes_done.mp path
    cases same
    exact .off (Bool.eq_false_iff.mpr kept)

/-- Tax is asked for and added, or neither. -/
theorem taxes_of_goes {later : List Exchange} {vat taxed : Amount}
    (asked : (order.vatOn order.methodOutcome).Goes heard (.done vat))
    (added : (order.withTax order.methodOutcome vat).Goes later (.done taxed)) :
    later = [] ∧ order.Taxes heard vat taxed := by
  unfold vatOn at asked
  unfold withTax at added
  cases enabled : order.project.merchant.isVatEnabled with
  | true =>
    rw [if_pos enabled] at asked added
    obtain rfl := goes_vat.mp asked
    obtain ⟨rfl, sum⟩ := goes_unlessOverflow.mp added
    exact ⟨rfl, .on enabled sum⟩
  | false =>
    rw [if_neg (Bool.eq_false_iff.mp enabled)] at asked added
    obtain ⟨rfl, same⟩ := goes_done.mp asked
    cases same
    obtain ⟨rfl, same⟩ := goes_done.mp added
    cases same
    exact ⟨rfl, .off enabled⟩

/-- **All that is heard while fees are found.** -/
theorem allocates_of_goes (path : (order.allocate settings).Goes heard (.done allocation)) :
    ∃ method, order.method = some method ∧ order.Allocates settings method heard allocation := by
  simp only [allocate, goes_bind_done, goes_requireMethod, goes_commission, goes_unlessOverflow,
    goes_convert, Prod.exists] at path
  obtain ⟨method, _, _, rfl, ⟨rfl, hasMethod⟩, path⟩ := path
  obtain ⟨vat, taxHeard, _, rfl, asked, path⟩ := path
  obtain ⟨taxed, _, _, rfl, added, path⟩ := path
  obtain ⟨rfl, taxes⟩ := taxes_of_goes asked added
  obtain ⟨commission, _, _, rfl, rfl, path⟩ := path
  obtain ⟨total, _, _, rfl, ⟨rfl, sum⟩, path⟩ := path
  obtain ⟨owed, charged, payerFee, shiftHeard, _, rfl, shifted, path⟩ := path
  obtain ⟨owedInMerchant, _, _, rfl, rfl, path⟩ := path
  obtain ⟨pspInMerchant, _, _, rfl, rfl, path⟩ := path
  obtain ⟨pspInPsp, _, _, rfl, rfl, path⟩ := path
  obtain ⟨systemInSystem, _, _, rfl, rfl, path⟩ := path
  obtain ⟨systemInMerchant, _, _, rfl, rfl, path⟩ := path
  obtain ⟨rfl, same⟩ := goes_done.mp path
  cases same
  exact ⟨method, hasMethod, .found taxes sum (shifts_of_goes shifted)⟩

/-! ### What is asked for and who books what -/

/-- **The shares of a commission**: what was asked for and on what amount, who keeps and who bears
which share, and who books it. -/
structure Shares (settings : Settings) (order : Order) (method : MethodSnapshot)
    (heard : List Exchange) (allocation : Allocation) : Prop where
  taxAsked : heard.filter (·.question.isVat) =
    if order.project.merchant.isVatEnabled then
      [⟨.vat (order.payer.country.getD "") order.payer.subdivision order.methodOutcome,
        .ok allocation.vat⟩]
    else []
  untaxed : order.project.merchant.isVatEnabled = false → allocation.vat = .zero
  commissionAsked : heard.filter (·.question.isCommission) =
    [⟨.commission order.project.id method.id order.methodOutcome, .ok allocation.commission⟩]
  pspKeeps : allocation.pspFee.amount = allocation.commission.psp
  systemKeeps : allocation.systemFee.amount = allocation.commission.method
  payerBears : allocation.payerFee.map (·.amount) =
    if order.project.merchant.shiftsCommission then some allocation.commission.payer else none
  projectBooked : allocation.projectFee.BookedIn heard method.currency
    (some order.project.merchant.accountingCurrency) none none
  pspBooked : allocation.pspFee.BookedIn heard method.currency
    (some order.project.merchant.accountingCurrency) (some settings.pspCurrency) none
  systemBooked : allocation.systemFee.BookedIn heard method.currency
    (some order.project.merchant.accountingCurrency) none
    (some method.system.accountingCurrency)
  payerBooked : ∀ bucket ∈ allocation.payerFee, bucket.BookedIn heard method.currency
    (some order.project.merchant.accountingCurrency) none none

section Steps

variable {merchant : Merchant} {currency : String} {commission : Commission}
  {vat taxed total charged owed more : Amount} {payerFee : Option FeeBucket}

/-- Tax is asked for once, on the amount before tax, or not at all. -/
theorem Taxes.asked (taxes : order.Taxes heard vat taxed) :
    heard = if order.project.merchant.isVatEnabled then
        [⟨.vat (order.payer.country.getD "") order.payer.subdivision order.methodOutcome,
          .ok vat⟩]
      else [] := by
  cases taxes with
  | off untaxed => rw [untaxed]; rfl
  | on enabled => rw [enabled]; rfl

theorem Taxes.eq_zero (taxes : order.Taxes heard vat taxed)
    (untaxed : order.project.merchant.isVatEnabled = false) : vat = .zero := by
  cases taxes with
  | off => rfl
  | on enabled => cases enabled.symm.trans untaxed

/-- The payer bears what may be shifted, or nothing. -/
theorem Shifts.payerBears
    (shifts : Shifts merchant currency commission total charged heard owed more payerFee) :
    payerFee.map (·.amount) = if merchant.shiftsCommission then some commission.payer else none := by
  cases shifts with
  | off kept => rw [kept]; rfl
  | on enabled => rw [enabled]; rfl

/-- The payer's fee is booked by the merchant. -/
theorem Shifts.booked
    (shifts : Shifts merchant currency commission total charged heard owed more payerFee) :
    ∀ bucket ∈ payerFee,
      bucket.BookedIn heard currency (some merchant.accountingCurrency) none none := by
  cases shifts with
  | off => simp
  | on =>
    rintro _ ⟨⟩
    exact ⟨.booked (List.mem_singleton_self _), .absent, .absent⟩

end Steps

/-- **The shares of a commission** are asked for and booked as they should be. -/
theorem Allocates.shares (allocates : order.Allocates settings method heard allocation) :
    order.Shares settings method heard allocation := by
  cases allocates with
  | @found taxHeard shiftHeard _ _ _ _ _ _ _ _ _ _ _ _ taxes sum shifts =>
    refine ⟨?_, taxes.eq_zero, ?_, rfl, rfl, shifts.payerBears, ?_, ?_, ?_, ?_⟩
    · rw [← taxes.asked]
      cases taxes <;> cases shifts <;> rfl
    · cases taxes <;> cases shifts <;> rfl
    · exact ⟨.booked (by simp [booking]), .absent, .absent⟩
    · exact ⟨.booked (by simp [booking]), .booked (by simp [booking]), .absent⟩
    · exact ⟨.booked (by simp [booking]), .absent, .booked (by simp [booking])⟩
    · intro bucket member
      exact (shifts.booked bucket member).mono (by grind)

end Order

/-! ### Sums -/

namespace Allocation

/-- What the payer bears of the commission, in cents; nothing where nothing is shifted. -/
def payerShare (allocation : Allocation) : Int :=
  (allocation.payerFee.map (·.amount.minor)).getD 0

/-- Every sum that is formed while an order's fees are found fits a decimal. -/
structure SumsFit (order : Order) (allocation : Allocation) : Prop where
  kept : (allocation.commission.method.minor + allocation.commission.psp.minor).natAbs
    < Decimal.limit
  taxed : order.project.merchant.isVatEnabled →
    (order.methodOutcome.minor + allocation.vat.minor).natAbs < Decimal.limit
  owed : order.project.merchant.shiftsCommission →
    (allocation.commission.method.minor + allocation.commission.psp.minor
      - allocation.commission.payer.minor).natAbs < Decimal.limit
  charged : order.project.merchant.shiftsCommission →
    (order.methodOutcome.minor + allocation.vat.minor
      + allocation.commission.payer.minor).natAbs < Decimal.limit

/-- **A commission is conserved**: project and payer bear, and payment system and provider keep,
neither more nor less than the commission, and the payer is charged the amount, the tax and the part
that is shifted. -/
structure Conserves (order : Order) (allocation : Allocation) : Prop where
  borne : allocation.projectFee.amount.minor + allocation.payerShare =
    allocation.commission.method.minor + allocation.commission.psp.minor
  kept : allocation.systemFee.amount.minor + allocation.pspFee.amount.minor =
    allocation.commission.method.minor + allocation.commission.psp.minor
  charged : allocation.charged.minor =
    order.methodOutcome.minor + allocation.vat.minor + allocation.payerShare

end Allocation

/-- An order's amount with the tax is their sum. -/
theorem Order.Taxes.minor_eq {order : Order} {heard : List Exchange} {vat taxed : Amount}
    (taxes : order.Taxes heard vat taxed)
    (small : order.project.merchant.isVatEnabled →
      (order.methodOutcome.minor + vat.minor).natAbs < Decimal.limit) :
    taxed.minor = order.methodOutcome.minor + vat.minor := by
  cases taxes with
  | off =>
    have nothing : Amount.zero.minor = 0 := by decide
    rw [nothing, add_zero]
  | on enabled added => exact Amount.minor_of_add added (small enabled)

/-- The shifted part goes from what the project owes to what the payer is charged. -/
theorem Order.Shifts.minor_eq {merchant : Merchant} {currency : String} {commission : Commission}
    {total charged owed more : Amount} {heard : List Exchange} {payerFee : Option FeeBucket}
    (shifts : Shifts merchant currency commission total charged heard owed more payerFee)
    (smallOwed : merchant.shiftsCommission →
      (total.minor - commission.payer.minor).natAbs < Decimal.limit)
    (smallCharged : merchant.shiftsCommission →
      (charged.minor + commission.payer.minor).natAbs < Decimal.limit) :
    owed.minor + (payerFee.map (·.amount.minor)).getD 0 = total.minor ∧
      more.minor = charged.minor + (payerFee.map (·.amount.minor)).getD 0 := by
  cases shifts with
  | off => exact ⟨add_zero _, (add_zero _).symm⟩
  | on enabled taken added =>
    have exact_owed := Amount.minor_of_sub taken (smallOwed enabled)
    have exact_charged := Amount.minor_of_add added (smallCharged enabled)
    refine ⟨?_, exact_charged⟩
    rw [exact_owed]
    exact sub_add_cancel _ _

/-- **The sums of an allocation are exact while they fit.** -/
theorem Order.Allocates.conserves {settings : Settings} {order : Order} {method : MethodSnapshot}
    {heard : List Exchange} {allocation : Allocation}
    (allocates : order.Allocates settings method heard allocation)
    (fit : allocation.SumsFit order) : allocation.Conserves order := by
  cases allocates with
  | found taxes sum shifts =>
    have exact_total := Amount.minor_of_add sum fit.kept
    have exact_taxed := taxes.minor_eq fit.taxed
    obtain ⟨borne, charged⟩ := shifts.minor_eq
      (by rw [exact_total]; exact fit.owed) (by rw [exact_taxed]; exact fit.charged)
    exact ⟨borne.trans exact_total, rfl, charged.trans (by rw [exact_taxed]; rfl)⟩

/-! ### Runs at a store -/

/-- **Commissions are conserved.** The fees of an order are found by look-ups alone, whatever the
services answer. Where none are found, the order gets none either and the store stays as it is.
Where they are, nothing but the tax, the charged amount and the four fees of the order changes, and

* tax is asked for where the merchant takes it, and commission always, both once and on the amount
  before tax;
* every fee is booked by exactly the parties that it concerns, each figure being the conversion of
  that fee into the party's currency;
* while every sum fits, what project and payer bear is what payment system and provider keep, and
  the payer is charged the amount, the tax and the payer's share. -/
theorem commissions_conserved (settings : Settings) (behaviour : Behaviour) (order : Order)
    (store : MemoryStore) :
    let found := (order.allocate settings).perform behaviour { store }
    let priced := (order.priced settings).perform behaviour { store }
    priced.2 = found.2 ∧ found.2.store = store ∧ Idle found.2.heard ∧
      (∀ reason, found.1 = .error reason → priced.1 = .error reason) ∧
      ∀ allocation, found.1 = .ok allocation →
        priced.1 = .ok
          { order with
            vat := allocation.vat
            methodOutcome := allocation.charged
            projectFee := some allocation.projectFee
            pspFee := some allocation.pspFee
            systemFee := some allocation.systemFee
            payerFee := allocation.payerFee } ∧
        ∃ method, order.method = some method ∧
          order.Shares settings method found.2.heard allocation ∧
          (allocation.SumsFit order → allocation.Conserves order) := by
  intro found priced
  obtain ⟨heard, same, path, steps⟩ := (order.allocate settings).perform_spec behaviour { store }
  have both : priced = (found.1.map (·.apply order), found.2) :=
    perform_map behaviour (Allocation.apply · order) (order.allocate settings) { store }
  rw [List.nil_append] at same
  have idle : Idle heard := idle_of_isReading fun exchange member =>
    Call.isReading_of_isInquiry (Call.isInquiry_of_isLookup
      (order.consults_allocate.isLookup path exchange member))
  refine ⟨?_, steps.eq_of_unwritten idle.unwritten, ?_, ?_, ?_⟩
  · rw [both]
  · rw [same]
    exact idle
  · intro reason failed
    rw [both, failed]
    rfl
  · intro allocation done
    rw [both, done]
    change (order.allocate settings).Goes heard (ended found.1) at path
    rw [done] at path
    obtain ⟨method, hasMethod, allocates⟩ := Order.allocates_of_goes path
    refine ⟨rfl, method, hasMethod, ?_, allocates.conserves⟩
    rw [same]
    exact allocates.shares

/-- Ten dollars, paid by card to a merchant who keeps books in pounds, takes tax and shifts part of
the commission; the payment system keeps its own in yen. -/
def tenDollars : Order :=
  { tenEuros with
    project := { tenEuros.project with merchant := ⟨"merchant", "Merchant", "GBP", true, true⟩ }
    payer := { country := some "LV" }
    method := some
      { id := "card", name := "Card", groupAlias := "cards", currency := "USD"
        params := ⟨"bank", "", "", ∅⟩, system := ⟨"bank", "Bank", "JP", "JPY", "month", true⟩ }
    methodOutcome := .ofInt 10 }

/-- A desk with a commission of five per cent, of which two may be shifted, a tax of twenty-one, and
a rate for every pair that is asked for. -/
def dollarDesk : Desk :=
  let hundredths (count : Int64) : Decimal := (Amount.ofMinor count).value
  let rate (quote : String) (count : Int64) : ExchangeRate :=
    ⟨"USD", quote, hundredths count, .epoch⟩
  { commissions := CommissionTable.empty.set "shop" "card"
      ⟨hundredths 350, hundredths 150, hundredths 200⟩
    vat := VatTable.empty.set "LV" (hundredths 2100)
    rates := ⟨[rate "GBP" 80, rate "EUR" 90, rate "JPY" 15000]⟩ }

/-- The run in which fees are found for those ten dollars. -/
def tenDollarsRun : Except Stop Allocation × Scene :=
  (tenDollars.allocate {}).perform (fun _ => dollarDesk.look) { store := .empty }

/-- The fees that are found for them. -/
def tenDollarsFees : Allocation :=
  { commission := ⟨.ofMinor 35, .ofMinor 15, .ofMinor 20⟩
    vat := .ofMinor 210
    charged := .ofMinor 1230
    projectFee := { amount := .ofMinor 30, merchant := some (.ofMinor 24) }
    pspFee :=
      { amount := .ofMinor 15, merchant := some (.ofMinor 12), psp := some (.ofMinor 14) }
    systemFee :=
      { amount := .ofMinor 35, merchant := some (.ofMinor 28), system := some (.ofMinor 5250) }
    payerFee := some { amount := .ofMinor 20, merchant := some (.ofMinor 16) } }

theorem commissions_conserved_tenDollars :
    tenDollarsRun.1 = .ok tenDollarsFees ∧ tenDollarsFees.SumsFit tenDollars ∧
      tenDollarsFees.Conserves tenDollars ∧
      tenDollarsFees.pspFee.BookedIn tenDollarsRun.2.heard "USD" (some "GBP") (some "EUR") none := by
  have done : tenDollarsRun.1 = .ok tenDollarsFees := by
    have priced : tenDollarsRun.1.toOption = some tenDollarsFees := by decide +kernel
    cases same : tenDollarsRun.1 with
    | error reason => rw [same] at priced; cases priced
    | ok fees => rw [same] at priced; rw [Option.some.inj priced]
  have fit : tenDollarsFees.SumsFit tenDollars :=
    ⟨by decide +kernel, fun _ => by decide +kernel, fun _ => by decide +kernel,
      fun _ => by decide +kernel⟩
  unfold tenDollarsRun at done ⊢
  obtain ⟨-, -, -, -, found⟩ :=
    commissions_conserved {} (fun _ => dollarDesk.look) tenDollars .empty
  obtain ⟨-, method, hasMethod, shares, conserves⟩ := found tenDollarsFees done
  obtain rfl := Option.some.inj hasMethod
  exact ⟨done, fit, conserves fit, shares.pspBooked⟩

end Paydesk
