/-
**Orders read back.**

The document of an order says all there is to say of it, apart from how its amounts and numbers
show: amounts are read as any amount is, rounded and with two places, and a number among the
parameters is read as whatever the double that is written for it stands for.

* `Order.IsExact`, `Order.IsReadable`: no parameter is a number that would become a double, or every
  such double is read as a number;
* `Order.read?_writeWith`: an order is read back where its parameters are;
* `Order.reread`, `Order.read?_write`: **an order without such numbers is read back from its
  document**;
* `Order.plain_write`, `Order.legible_write`: the document is one that is read from its text;
* `Order.read?_text`, `Order.read?_text_of_isReadable`: the same through the text of the document;
* `Order.read?_text_eq`: **an order is read of its text where its numbers are**, and else no order
  is.
-/

import Paydesk.Order.Document
import Paydesk.Proofs.Decimal.Text
import Paydesk.Proofs.Json.Legible
import Paydesk.Proofs.Json.Record
import Paydesk.Proofs.Network.Address
import Paydesk.Proofs.Order.Equality
import Paydesk.Proofs.Time.Text

namespace Paydesk

open Json (Recovers)

/-! ### Parts of orders -/

theorem Merchant.read?_write (merchant : Merchant) : read? merchant.write = some merchant :=
  Json.readRecord?_object (by simp) <|
    .next rfl <| .next rfl <| .next rfl <| .next rfl <| .next rfl <| .done merchant

theorem MethodParams.read?_write (params : MethodParams) : read? params.write = some params :=
  Json.readRecord?_object (by simp) <|
    .next rfl <| .next rfl <| .next rfl <| .next (Json.readTextDict?_texts params.other) <|
      .done params

theorem PaymentSystem.read?_write (system : PaymentSystem) : read? system.write = some system :=
  Json.readRecord?_object (by simp) <|
    .next rfl <| .next rfl <| .next rfl <| .next rfl <| .next rfl <| .next rfl <| .done system

theorem ProjectSnapshot.read?_write (project : ProjectSnapshot) :
    read? project.write = some project :=
  Json.readRecord?_object (by simp) <|
    .next rfl <| .next rfl <| .next project.merchant.read?_write <| .next rfl <| .next rfl <|
    .next rfl <| .next (Json.readOption?_ofText? project.urlSuccess) <|
    .next (Json.readOption?_ofText? project.urlFail) <|
    .next (Json.readOption?_ofText? project.urlCheckAccount) <|
    .next (Json.readOption?_ofText? project.urlProcessPayment) <| .next rfl <|
    .next (Json.readList?_texts project.notifyEmails) <| .done project

theorem MethodSnapshot.read?_write (method : MethodSnapshot) : read? method.write = some method :=
  Json.readRecord?_object (by simp) <|
    .next rfl <| .next rfl <| .next rfl <| .next rfl <| .next method.params.read?_write <|
    .next method.system.read?_write <| .done method

theorem Address.ofJson?_toJson (address : Address) : ofJson? address.toJson = some address := by
  simp only [ofJson?, toJson, Json.text?, Option.bind_eq_bind, Option.bind_some,
    address.read?_write]

theorem Payer.read?_write (payer : Payer) : read? payer.write = some payer :=
  Json.readRecord?_object (by simp) <|
    .next (Json.readOption?_writeOption_self rfl Address.ofJson?_toJson) <|
    .next (Json.readOption?_ofText? payer.country) <|
    .next (Json.readOption?_ofText? payer.city) <|
    .next (Json.readOption?_ofText? payer.subdivision) <|
    .next (Json.readOption?_ofText? payer.timezone) <|
    .next (Json.readOption?_ofText? payer.email) <|
    .next (Json.readOption?_ofText? payer.phone) <| .done payer

theorem Json.readInstant?_ofInstant (instant : Instant) :
    readInstant? (ofInstant instant) = some instant := by
  simp only [readInstant?, ofInstant, text?, Option.bind_eq_bind, Option.bind_some,
    instant.read?_write]

theorem Json.readInt64?_toInt (number : Int64) : readInt64? (.int number.toInt) = some number := by
  have range : -(Nat.pow 2 63 : Int) ≤ number.toInt ∧ number.toInt < Nat.pow 2 63 :=
    ⟨number.le_toInt, number.toInt_lt⟩
  simp only [readInt64?, readBounded?, if_pos range, Option.map_some, Int64.ofInt_toInt]

theorem Status.read?_write (status : Status) : read? status.write = some status := by
  cases status <;> rfl

theorem TransactionField.ofKey?_key (field : TransactionField) : ofKey? field.key = some field := by
  cases field <;> rfl

/-! ### Parts with amounts and numbers -/

theorem PackageSnapshot.read?_write (package : PackageSnapshot) :
    read? package.write = some (package.mapAmounts Amount.reread) :=
  Json.readRecord?_object (by simp) <|
    .next rfl <| .next rfl <| .next rfl <| .next package.price.readAmount?_ofAmount <| .next rfl <|
      .done (package.mapAmounts Amount.reread)

theorem FeeBucket.read?_write (bucket : FeeBucket) :
    read? bucket.write = some (bucket.mapAmounts Amount.reread) := by
  have shape : bucket.write = .object
      (("amount_payment_method_currency", Json.ofAmount bucket.amount)
        :: (Json.optionalField "amount_merchant_currency" Json.ofAmount bucket.merchant
          ++ (Json.optionalField "amount_psp_currency" Json.ofAmount bucket.psp
            ++ (Json.optionalField "amount_payment_system_currency" Json.ofAmount bucket.system
              ++ [])))) := by
    rw [write, List.append_nil, List.append_assoc]
  have amount := fun (value : Amount) (option : Option Amount) (_ : value ∈ option) =>
    value.readAmount?_ofAmount
  rw [shape]
  refine Json.readRecord?_object ?_ <|
    .next bucket.amount.readAmount?_ofAmount <| .optionalField rfl (amount · _) ?_ <|
    .optionalField rfl (amount · _) ?_ <| .optionalField rfl (amount · _) ?_ <|
      .done (bucket.mapAmounts Amount.reread)
  all_goals
    cases bucket.merchant <;> cases bucket.psp <;> cases bucket.system <;>
      simp [Json.optionalField]

/-- A parameter is no number that is written as a double. -/
def Param.IsExact : Param → Prop
  | .number _ => False
  | _ => True

instance : DecidablePred Param.IsExact
  | .number _ => isFalse not_false
  | .flag _ | .whole _ | .text _ => isTrue trivial

/-- No parameter is a number that is written as a double. -/
def Params.IsExact (params : Params) : Prop := ∀ entry ∈ params.entries, entry.2.IsExact

instance (params : Params) : Decidable params.IsExact :=
  inferInstanceAs (Decidable (∀ entry ∈ params.entries, entry.2.IsExact))

theorem Param.read?_write {param : Param} (isExact : param.IsExact) :
    read? param.write = some (param.mapNumber fun number => number) := by
  cases param with
  | number value => exact isExact.elim
  | whole value =>
    have fits : Text.toInt64? value.toInt = some value := by
      have range : Text.fitsInt64 value.toInt := by
        simp only [Text.fitsInt64, Bool.and_eq_true, decide_eq_true_eq]
        exact ⟨value.le_toInt, value.toInt_lt⟩
      simp only [Text.toInt64?, range, if_true, Int64.ofInt_toInt]
    simp only [write, read?, fits]
    rfl
  | flag value => rfl
  | text value => rfl

theorem Params.read?_write {params : Params} (isExact : params.IsExact) :
    read? params.write = some (params.mapValues (Param.mapNumber fun number => number)) :=
  Json.readTextDict?_write params fun entry member => Param.read?_write (isExact entry member)

theorem TransactionParams.read?_writeWith {params : TransactionParams} {writeParams : Params → Json}
    {numbers : Decimal → Decimal}
    (additional : Params.read? (writeParams params.additional)
      = some (params.additional.mapValues (Param.mapNumber numbers))) :
    read? (params.writeWith writeParams)
      = some { params with
          additional := params.additional.mapValues (Param.mapNumber numbers) } := by
  have known : Json.readDict? TransactionField.ofKey? Json.text?
      (.object (params.known.entries.map fun entry => (entry.1.key, .text entry.2)))
        = some (params.known.mapValues id) :=
    Json.readDict?_write TransactionField.ofKey?_key params.known fun _ _ => rfl
  rw [Dict.mapValues_id] at known
  exact Json.readRecord?_object (by simp) <| .next known <| .next additional <| .done _

/-! ### Orders -/

namespace Order

/-- No parameter of an order is a number that is written as a double. -/
structure IsExact (order : Order) : Prop where
  projectParams : order.projectParams.IsExact
  additional : order.transaction.additional.IsExact

instance (order : Order) : Decidable order.IsExact :=
  decidable_of_iff (order.projectParams.IsExact ∧ order.transaction.additional.IsExact)
    ⟨fun both => ⟨both.1, both.2⟩, fun params => ⟨params.projectParams, params.additional⟩⟩

/-- What is read of an order. -/
def reread (order : Order) : Order := order.mapNumbers Amount.reread fun number => number

/-- What is read of an order is equal to it. -/
theorem same_reread (order : Order) : order.reread.Same order :=
  same_mapNumbers Amount.sameValue_reread Decimal.sameValue_refl order

/-- An order is read back where its parameters are. -/
theorem read?_writeWith {order : Order} {writeParams : Params → Json} {numbers : Decimal → Decimal}
    (params : Params.read? (writeParams order.projectParams)
      = some (order.projectParams.mapValues (Param.mapNumber numbers)))
    (additional : Params.read? (writeParams order.transaction.additional)
      = some (order.transaction.additional.mapValues (Param.mapNumber numbers))) :
    read? (order.writeWith writeParams) = some (order.mapNumbers Amount.reread numbers) := by
  have instant : ∀ option : Option Instant,
      Json.readOption? Json.readInstant? (Json.writeOption Json.ofInstant option) = some option :=
    fun _ => Json.readOption?_writeOption_self rfl Json.readInstant?_ofInstant
  have bucket := fun option : Option FeeBucket =>
    Json.readOption?_writeOption rfl fun bucket (_ : bucket ∈ option) => bucket.read?_write
  exact Json.readRecord?_object (by simp) <|
    .next rfl <| .next (Json.readInt64?_toInt order.version) <|
    .next order.project.read?_write <| .next (Json.readOption?_ofText? order.projectOrderId) <|
    .next rfl <| .next rfl <| .next order.projectIncome.readAmount?_ofAmount <| .next rfl <|
    .next order.projectOutcome.readAmount?_ofAmount <| .next rfl <|
    .next params <| .next order.payer.read?_write <|
    .next (Json.readOption?_writeOption_self rfl MethodSnapshot.read?_write) <|
    .next (Json.readOption?_ofText? order.methodTerminalId) <|
    .next (Json.readOption?_ofText? order.methodOrderId) <|
    .next (Json.readOption?_ofText? order.methodPayerAccount) <|
    .next order.methodOutcome.readAmount?_ofAmount <|
    .next (Json.readOption?_ofText? order.methodOutcomeCurrency) <|
    .next order.methodIncome.readAmount?_ofAmount <|
    .next (Json.readOption?_ofText? order.methodIncomeCurrency) <|
    .next (instant order.methodClosedAt) <|
    .next (TransactionParams.read?_writeWith additional) <|
    .next (Json.readTextDict?_texts order.requisites) <|
    .next (Json.readOption?_writeOption rfl fun package _ => package.read?_write) <|
    .next order.vat.readAmount?_ofAmount <| .next (bucket order.projectFee) <|
    .next (bucket order.pspFee) <| .next (bucket order.systemFee) <|
    .next (bucket order.payerFee) <| .next order.inPspCurrency.readAmount?_ofAmount <|
    .next order.inMerchantCurrency.readAmount?_ofAmount <|
    .next order.outMerchantCurrency.readAmount?_ofAmount <|
    .next order.inSystemCurrency.readAmount?_ofAmount <|
    .next (Json.readOption?_ofText? order.urlSuccess) <|
    .next (Json.readOption?_ofText? order.urlFail) <|
    .next (Json.readOption?_ofText? order.urlVerify) <|
    .next (Json.readOption?_ofText? order.urlNotify) <| .next rfl <|
    .next order.status.read?_write <|
    .next (Json.readInstant?_ofInstant order.createdAt) <|
    .next (Json.readInstant?_ofInstant order.updatedAt) <|
    .next (instant order.projectLastRequestedAt) <| .done (order.mapNumbers Amount.reread numbers)

/-- **An order is read back from its document.** -/
theorem read?_write {order : Order} (isExact : order.IsExact) :
    read? order.write = some order.reread :=
  read?_writeWith (Params.read?_write isExact.projectParams)
    (Params.read?_write isExact.additional)

end Order

/-! ### Texts of documents -/

namespace Json

attribute [simp] Plain.null Plain.bool Plain.text

variable {α : Type} {write : α → Json}

theorem plain_writeOption {option : Option α} (plain : ∀ value ∈ option, Plain (write value)) :
    Plain (writeOption write option) := by
  cases option with
  | none => exact .null
  | some value => exact plain value rfl

@[simp] theorem plain_writeOption_of_forall (plain : ∀ value, Plain (write value))
    (option : Option α) : Plain (writeOption write option) :=
  plain_writeOption fun value _ => plain value

@[simp] theorem plain_ofText? (text : Option String) : Plain (ofText? text) :=
  plain_writeOption_of_forall .text text

@[simp] theorem plain_ofAmount (amount : Amount) : Plain (ofAmount amount) := .text _

@[simp] theorem plain_ofInstant (instant : Instant) : Plain (ofInstant instant) := .text _

theorem plain_writeTextDict {dict : Dict String α}
    (plain : ∀ entry ∈ dict.entries, Plain (write entry.2)) : Plain (writeTextDict write dict) := by
  refine .object fun field member => ?_
  obtain ⟨entry, inside, rfl⟩ := List.mem_map.mp member
  exact plain entry inside

@[simp] theorem plain_texts (dict : Dict String String) : Plain (writeTextDict .text dict) :=
  plain_writeTextDict fun entry _ => .text entry.2

theorem fitsDocument_toInt (number : Int64) : FitsDocument number.toInt := by
  have lower := number.le_toInt
  have upper := number.toInt_lt
  exact ⟨lower, by rw [Nat.pow_eq]; omega⟩

@[simp] theorem plain_toInt (number : Int64) : Plain (.int number.toInt) :=
  .int (fitsDocument_toInt number)

end Json

@[simp] theorem Merchant.plain_write (merchant : Merchant) : merchant.write.Plain :=
  .object (by simp)

@[simp] theorem MethodParams.plain_write (params : MethodParams) : params.write.Plain :=
  .object (by simp)

@[simp] theorem PaymentSystem.plain_write (system : PaymentSystem) : system.write.Plain :=
  .object (by simp)

@[simp] theorem ProjectSnapshot.plain_write (project : ProjectSnapshot) : project.write.Plain := by
  have emails : (Json.writeList .text project.notifyEmails).Plain :=
    .list fun item member => by
      obtain ⟨email, _, rfl⟩ := List.mem_map.mp member
      exact .text email
  exact .object (by simp [Secret.write, emails])

@[simp] theorem MethodSnapshot.plain_write (method : MethodSnapshot) : method.write.Plain :=
  .object (by simp)

@[simp] theorem PackageSnapshot.plain_write (package : PackageSnapshot) : package.write.Plain :=
  .object (by simp)

@[simp] theorem FeeBucket.plain_write (bucket : FeeBucket) : bucket.write.Plain := by
  refine .object ?_
  cases bucket.merchant <;> cases bucket.psp <;> cases bucket.system <;>
    simp [Json.optionalField]

@[simp] theorem Payer.plain_write (payer : Payer) : payer.write.Plain := by
  have ip : (Json.writeOption Address.toJson payer.ip).Plain :=
    Json.plain_writeOption fun address _ => .text address.write
  exact .object (by simp [ip])

@[simp] theorem Status.plain_write (status : Status) : status.write.Plain :=
  .int (by cases status <;> decide)

theorem Params.plain_write {params : Params} (isExact : params.IsExact) : params.write.Plain := by
  refine Json.plain_writeTextDict fun entry member => ?_
  have plain := isExact entry member
  cases shape : entry.2 with
  | number value =>
    rw [shape] at plain
    exact plain.elim
  | whole value => exact .int (Json.fitsDocument_toInt value)
  | flag value => exact .bool value
  | text value => exact .text value

theorem TransactionParams.plain_known (params : TransactionParams) : (Json.object
    (params.known.entries.map fun entry => (entry.1.key, Json.text entry.2))).Plain :=
  .object fun field member => by
    obtain ⟨entry, _, rfl⟩ := List.mem_map.mp member
    exact .text entry.2

theorem TransactionParams.plain_write {params : TransactionParams}
    (isExact : params.additional.IsExact) : params.write.Plain := by
  have additional := Params.plain_write isExact
  exact .object (by simp [params.plain_known, additional])

namespace Order

theorem plain_write {order : Order} (isExact : order.IsExact) : order.write.Plain := by
  have params := Params.plain_write isExact.projectParams
  have transaction : (order.transaction.writeWith Params.write).Plain :=
    TransactionParams.plain_write isExact.additional
  exact .object (by simp [params, transaction])

/-- **An order is read back from the text of its document.** -/
theorem read?_text {order : Order} (isExact : order.IsExact) :
    Json.read? order.write.write >>= read? = some order.reread := by
  rw [Json.read?_write (plain_write isExact)]
  exact read?_write isExact

end Order

/-! ### Numbers that are written as doubles -/

/-- The decimal that is read of the double which a decimal is written as. -/
def Decimal.reread? (number : Decimal) : Option Decimal :=
  match Json.readBack? number.toBinary64 >>= Param.read? with
  | some (.number found) => some found
  | _ => none

/-- The decimal that is read of one, where one is read at all. -/
def Decimal.reread (number : Decimal) : Decimal := number.reread?.getD number

/-- A number is written as a double that is read as a number. -/
def Param.IsReadable : Param → Prop
  | .number value => value.reread?.isSome
  | _ => True

instance : DecidablePred Param.IsReadable
  | .number value => inferInstanceAs (Decidable (value.reread?.isSome = true))
  | .flag _ | .whole _ | .text _ => isTrue trivial

/-- Every number among the parameters is one that is read. -/
def Params.IsReadable (params : Params) : Prop := ∀ entry ∈ params.entries, entry.2.IsReadable

instance (params : Params) : Decidable params.IsReadable :=
  inferInstanceAs (Decidable (∀ entry ∈ params.entries, entry.2.IsReadable))

/-- A decimal is written as a double, and of its text another double is read. -/
theorem Decimal.exists_readBack?_eq (number : Decimal) :
    ∃ back, Json.readBack? number.toBinary64 = some (.float back)
      ∧ Param.read? (.float back) = number.reread?.map .number := by
  obtain ⟨back, written⟩ := Json.exists_readBack?_eq number.within_toBinary64
  refine ⟨back, written, ?_⟩
  unfold reread?
  rw [written]
  cases decoded : Json.readDecimal? (.float back) with
  | none => simp [Param.read?, decoded]
  | some value => simp [Param.read?, decoded]

theorem Param.read?_reread_eq (param : Param) : read? param.write.reread
    = if param.IsReadable then some (param.mapNumber Decimal.reread) else none := by
  cases param with
  | number value =>
    obtain ⟨back, written, decoded⟩ := value.exists_readBack?_eq
    rw [write, Json.reread, written, Option.getD_some, decoded]
    cases read : value.reread? with
    | none => simp [IsReadable, read]
    | some number => simp [IsReadable, read, mapNumber, Decimal.reread]
  | whole value =>
    have exact_value : (Param.whole value).IsExact := trivial
    exact read?_write exact_value
  | flag value => rfl
  | text value => rfl

theorem Param.legible_write (param : Param) : param.write.Legible := by
  cases param with
  | number value =>
    obtain ⟨back, written, -⟩ := value.exists_readBack?_eq
    exact .float (Option.isSome_of_mem written)
  | whole value => exact .plain (.int (Json.fitsDocument_toInt value))
  | flag value => exact .plain (.bool value)
  | text value => exact .plain (.text value)

theorem Params.reread_write (params : Params) :
    params.write.reread = Json.writeTextDict (fun param => param.write.reread) params := by
  unfold write Json.writeTextDict
  rw [Json.reread, Json.rereadFields_eq, List.map_map]
  rfl

theorem Params.read?_reread {params : Params} (readable : params.IsReadable) :
    read? params.write.reread = some (params.mapValues (Param.mapNumber Decimal.reread)) := by
  rw [reread_write]
  refine Json.readTextDict?_write params fun entry member => ?_
  rw [Param.read?_reread_eq, if_pos (readable entry member)]

theorem Params.isReadable_of_read?_reread {params : Params}
    (found : (read? params.write.reread).isSome) : params.IsReadable := by
  rw [reread_write] at found
  intro entry member
  have read := Json.isSome_of_readTextDict? found entry member
  rw [Param.read?_reread_eq] at read
  by_contra unreadable
  rw [if_neg unreadable] at read
  nomatch read

theorem Params.legible_write (params : Params) : params.write.Legible := by
  refine .object fun field member => ?_
  obtain ⟨entry, -, rfl⟩ := List.mem_map.mp member
  exact entry.2.legible_write

theorem TransactionParams.legible_write (params : TransactionParams) : params.write.Legible := by
  refine .object fun field member => ?_
  rcases List.mem_cons.mp member with rfl | last
  · exact .plain params.plain_known
  · rw [List.mem_singleton.mp last]
    exact params.additional.legible_write

theorem TransactionParams.reread_write (params : TransactionParams) :
    params.write.reread = params.writeWith fun extra => extra.write.reread := by
  unfold write writeWith
  rw [Json.reread, Json.rereadFields, Json.rereadFields, Json.rereadFields, params.plain_known.reread_eq]

namespace Order

/-- Every number among an order's parameters is one that is read. -/
structure IsReadable (order : Order) : Prop where
  projectParams : order.projectParams.IsReadable
  additional : order.transaction.additional.IsReadable

instance (order : Order) : Decidable order.IsReadable :=
  decidable_of_iff (order.projectParams.IsReadable ∧ order.transaction.additional.IsReadable)
    ⟨fun both => ⟨both.1, both.2⟩, fun params => ⟨params.projectParams, params.additional⟩⟩

theorem legible_write (order : Order) : order.write.Legible := by
  have params := order.projectParams.legible_write
  have transaction : (order.transaction.writeWith Params.write).Legible :=
    order.transaction.legible_write
  exact .object (by simp [Json.Legible.plain, params, transaction])

/-- An order's document as it is read: only its parameters are read otherwise. -/
theorem reread_write (order : Order) :
    order.write.reread = order.writeWith fun params => params.write.reread := by
  have transaction : (order.transaction.writeWith Params.write).reread
      = order.transaction.writeWith fun params => params.write.reread :=
    order.transaction.reread_write
  unfold write writeWith
  rw [Json.reread, Json.rereadFields_eq]
  simp [Json.Plain.reread_eq, transaction]

/-- **An order whose numbers are read is read back from the text of its document.** -/
theorem read?_text_of_isReadable {order : Order} (readable : order.IsReadable) :
    Json.read? order.write.write >>= read?
      = some (order.mapNumbers Amount.reread Decimal.reread) := by
  rw [Json.read?_write_of_legible order.legible_write, reread_write]
  exact read?_writeWith (Params.read?_reread readable.projectParams)
    (Params.read?_reread readable.additional)

section Unread

variable {object : List (String × Json)} {json : Json} (distinct : (object.map (·.1)).Nodup)

include distinct

theorem isSome_params_of_read? (member : ("project_params", json) ∈ object)
    (found : (read? (.object object)).isSome) : (Params.read? json).isSome :=
  Json.isSome_of_readRecord? (by repeat first | exact .here | refine .later fun _ => ?_)
    distinct member found

theorem isSome_transaction_of_read? (member : ("payment_method_txn_params", json) ∈ object)
    (found : (read? (.object object)).isSome) : (TransactionParams.read? json).isSome :=
  Json.isSome_of_readRecord? (by repeat first | exact .here | refine .later fun _ => ?_)
    distinct member found

theorem isSome_additional_of_read? (member : ("additional", json) ∈ object)
    (found : (TransactionParams.read? (.object object)).isSome) : (Params.read? json).isSome :=
  Json.isSome_of_readRecord? (.later fun _ => .here) distinct member found

end Unread

/-- No order is read of the text of a document with parameters that are not read. -/
theorem isReadable_of_read?_text {order : Order}
    (found : (Json.read? order.write.write >>= read?).isSome) : order.IsReadable := by
  rw [Json.read?_write_of_legible order.legible_write, reread_write] at found
  have transaction : (TransactionParams.read?
      (order.transaction.writeWith fun params => params.write.reread)).isSome :=
    isSome_transaction_of_read? (by simp) (by simp) found
  constructor
  · exact Params.isReadable_of_read?_reread (isSome_params_of_read? (by simp) (by simp) found)
  · exact Params.isReadable_of_read?_reread
      (isSome_additional_of_read? (by simp) (by simp) transaction)

/-- **An order is read of the text of its document where its numbers are.** -/
theorem read?_text_eq (order : Order) : Json.read? order.write.write >>= read?
    = if order.IsReadable then some (order.mapNumbers Amount.reread Decimal.reread) else none := by
  split_ifs with readable
  · exact read?_text_of_isReadable readable
  · exact Option.not_isSome_iff_eq_none.mp fun found => readable (isReadable_of_read?_text found)

end Order

end Paydesk
