/-
**Transaction parameters.**

A payment system reports well-known fields of a transaction, such as a card number, and may add
parameters of its own.

* `TransactionField`: the well-known fields, with keys and labels;
* `TransactionParams.set`: sets a well-known field;
* `TransactionParams.texts`: everything in text by key; well-known fields win.
-/

import Paydesk.Order.Params

namespace Paydesk

/-- A well-known field of a transaction. -/
inductive TransactionField where
  | pan
  | cardHolder
  | cardBrand
  | cardType
  | issuerName
  | issuerCountry
  | payerAccount
  | authCode
  | rrn
  deriving DecidableEq

namespace TransactionField

/-- All fields, in their order. -/
def all : List TransactionField :=
  [pan, cardHolder, cardBrand, cardType, issuerName, issuerCountry, payerAccount, authCode, rrn]

/-- The key of a field in documents. -/
def key : TransactionField → String
  | pan => "pan"
  | cardHolder => "card_holder"
  | cardBrand => "card_brand"
  | cardType => "card_type"
  | issuerName => "issuer_name"
  | issuerCountry => "issuer_country"
  | payerAccount => "payer_account"
  | authCode => "auth_code"
  | rrn => "rrn"

/-- The field of a key. -/
def ofKey? (key : String) : Option TransactionField := all.find? fun field => field.key == key

/-- What a field is called on a receipt. -/
def label : TransactionField → String
  | pan => "Card number"
  | cardHolder => "Card holder"
  | cardBrand => "Card brand"
  | cardType => "Card type"
  | issuerName => "Issuer"
  | issuerCountry => "Issuer country"
  | payerAccount => "Payer account"
  | authCode => "Authorization code"
  | rrn => "Retrieval reference number"

/-- The place of a field in their order. -/
def rank : TransactionField → Nat
  | pan => 0
  | cardHolder => 1
  | cardBrand => 2
  | cardType => 3
  | issuerName => 4
  | issuerCountry => 5
  | payerAccount => 6
  | authCode => 7
  | rrn => 8

theorem rank_injective {first second : TransactionField} (same : first.rank = second.rank) :
    first = second := by
  cases first <;> cases second <;> first | rfl | cases same

instance : Ord TransactionField := ⟨fun first second => compare first.rank second.rank⟩

theorem compare_eq_rank (first second : TransactionField) :
    compare first second = compare first.rank second.rank := rfl

instance : Std.TransOrd TransactionField where
  eq_swap := by
    intro first second
    rw [compare_eq_rank, compare_eq_rank]
    exact Std.OrientedCmp.eq_swap
  isLE_trans := by
    intro first second third
    simp only [compare_eq_rank]
    exact Std.TransCmp.isLE_trans

instance : Std.LawfulEqOrd TransactionField where
  compare_self := by
    intro field
    rw [compare_eq_rank]
    exact Std.ReflCmp.compare_self
  eq_of_compare := by
    intro first second same
    rw [compare_eq_rank] at same
    exact rank_injective (Std.LawfulEqCmp.eq_of_compare same)

end TransactionField

/-- What a payment system reports of a transaction. -/
structure TransactionParams where
  known : Dict TransactionField String
  additional : Params
  deriving DecidableEq

namespace TransactionParams

/-- Nothing reported. -/
def none : TransactionParams := ⟨∅, ∅⟩

/-- Sets a well-known field. -/
def set (params : TransactionParams) (field : TransactionField) (value : String) :
    TransactionParams :=
  { params with known := params.known.insert field value }

def isEmpty (params : TransactionParams) : Bool :=
  params.known.isEmpty && params.additional.isEmpty

/-- All values in text by key; a well-known field wins over an additional one of its key. -/
def texts (params : TransactionParams) : Dict String String :=
  params.known.entries.foldl (fun texts (field, value) => texts.insert field.key value)
    params.additional.texts

/-- The parameters of a document. -/
def read? (json : Json) : Option TransactionParams :=
  Json.readRecord? (do
    let known ← Json.defaultedPart "known" ∅ (Json.readDict? TransactionField.ofKey? Json.text?)
    let additional ← Json.defaultedPart "additional" ∅ Params.read?
    return { known, additional }) json

/-- The document of parameters, the additional ones written in a given way. -/
def writeWith (writeParams : Params → Json) (params : TransactionParams) : Json :=
  .object
    [("known", .object (params.known.entries.map fun (field, value) => (field.key, .text value))),
      ("additional", writeParams params.additional)]

/-- The document of parameters. -/
def write (params : TransactionParams) : Json := params.writeWith Params.write

end TransactionParams

end Paydesk
