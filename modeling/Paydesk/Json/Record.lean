/-
**Records in documents.**

A record is an object with a field for each of its parts; a list with the parts in order is read as
well. Fields that a record does not know are passed over in an object, but a list may not be longer
than the record.

* `Json.readBool?` and its kin: the readers of single values;
* `RecordReader`: reads the parts of a record one after another;
* `Json.readRecord?`: a record that leaves nothing over;
* `Json.writeOption`, `Json.optionalField`: parts for writing.
-/

import Paydesk.Amount
import Paydesk.Binary64.Shortest
import Paydesk.Json.Basic
import Paydesk.Time.Rfc3339

namespace Paydesk.Json

/-! ### Single values -/

/-- A flag. -/
def readBool? : Json → Option Bool
  | .bool flag => some flag
  | _ => none

/-- A whole number from one bound up to below another. -/
def readBounded? (least bound : Int) : Json → Option Int
  | .int number => if least ≤ number ∧ number < bound then some number else none
  | _ => none

/-- A whole number of 32 bits with a sign. -/
def readInt32? : Json → Option Int := readBounded? (-Nat.pow 2 31) (Nat.pow 2 31)

/-- A whole number of 64 bits with a sign. -/
def readInt64? (json : Json) : Option Int64 :=
  (readBounded? (-Nat.pow 2 63) (Nat.pow 2 63) json).map Int64.ofInt

/-- A natural number of 32 bits. -/
def readNat32? (json : Json) : Option Nat := (readBounded? 0 (Nat.pow 2 32) json).map Int.toNat

/-- A natural number of 64 bits. -/
def readNat64? (json : Json) : Option Nat := (readBounded? 0 (Nat.pow 2 64) json).map Int.toNat

/-- A value or null. -/
def readOption? {α : Type} (read : Json → Option α) : Json → Option (Option α)
  | .null => some none
  | json => (read json).map some

/-- A list of values. -/
def readList? {α : Type} (read : Json → Option α) : Json → Option (List α)
  | .list items => items.mapM read
  | _ => none

/-- A map with keys and values of given kinds. -/
def readDict? {κ α : Type} [Ord κ] [Std.TransOrd κ] [Std.LawfulEqOrd κ]
    (readKey : String → Option κ) (read : Json → Option α) (json : Json) : Option (Dict κ α) := do
  let fields ← json.fields?
  let entries ← fields.entries.mapM fun (name, value) => do
    return (← readKey name, ← read value)
  return Dict.ofList entries

/-- A map from texts. -/
def readTextDict? {α : Type} (read : Json → Option α) (json : Json) : Option (Dict String α) :=
  readDict? some read json

/-- The name of one of a list of choices; an object with the name and null counts too. -/
def readName? : Json → Option String
  | .text name => some name
  | .object [(name, .null)] => some name
  | _ => none

/-- A decimal, in a text or as a number; a number with a fraction is read by its digits. -/
def readDecimal? : Json → Option Decimal
  | .int number => Decimal.ofInt? number
  | .float number => (Decimal.read number.writePlain).toOption
  | .text content => (Decimal.read content).toOption
  | _ => none

/-- An amount, rounded to cents. -/
def readAmount? (json : Json) : Option Amount := (readDecimal? json).map Amount.round

/-- A time in text. -/
def readInstant? (json : Json) : Option Instant := json.text? >>= Instant.read?

/-! ### Records -/

/-- The parts of a record that are yet to be read: an object's fields by name, or a list's items in
order. -/
inductive RecordSource where
  | named (fields : Json)
  | listed (items : List Json)

/-- Reads parts of a record. -/
def RecordReader (α : Type) : Type := RecordSource → Option (α × RecordSource)

namespace RecordReader

/-- Reads nothing and gives a value. -/
def done {α : Type} (value : α) : RecordReader α := fun source => some (value, source)

/-- Reads with one reader and then with the next. -/
def andThen {α β : Type} (first : RecordReader α) (next : α → RecordReader β) : RecordReader β :=
  fun source =>
    match first source with
    | some (value, rest) => next value rest
    | none => none

instance : Monad RecordReader where
  pure := done
  bind := andThen

end RecordReader

/-- A part that may be left out of an object for a value given, and of a list's end if `short`. -/
def partOr {α : Type} (missing : Option α) (short : Bool) (name : String)
    (read : Json → Option α) : RecordReader α
  | .named fields =>
    match fields.field? name with
    | some json => (read json).map fun value => (value, .named fields)
    | none => missing.map fun value => (value, .named fields)
  | .listed (json :: rest) => (read json).map fun value => (value, .listed rest)
  | .listed [] => if short then missing.map fun value => (value, .listed []) else none

/-- A part that must be there. -/
def part {α : Type} (name : String) (read : Json → Option α) : RecordReader α :=
  partOr none false name read

/-- A part that may be null or left out of an object. -/
def optionalPart {α : Type} (name : String) (read : Json → Option α) : RecordReader (Option α) :=
  partOr (some none) false name (readOption? read)

/-- A part that may be null or left out. -/
def trailingPart {α : Type} (name : String) (read : Json → Option α) : RecordReader (Option α) :=
  partOr (some none) true name (readOption? read)

/-- A part with a default. -/
def defaultedPart {α : Type} (name : String) (default : α) (read : Json → Option α) :
    RecordReader α :=
  partOr (some default) true name read

/-- Whether a record has nothing left over. -/
def RecordSource.isUsedUp : RecordSource → Bool
  | .named _ => true
  | .listed items => items.isEmpty

/-- A record. -/
def readRecord? {α : Type} (reader : RecordReader α) (json : Json) : Option α :=
  let finish (source : RecordSource) : Option α :=
    match reader source with
    | some (value, rest) => if rest.isUsedUp then some value else none
    | none => none
  match json with
  | .object _ => finish (.named json)
  | .list items => finish (.listed items)
  | _ => none

/-! ### Writing -/

/-- A value that may be missing, null where it is. -/
def writeOption {α : Type} (write : α → Json) : Option α → Json
  | some value => write value
  | none => .null

/-- A text that may be missing. -/
def ofText? (text : Option String) : Json := writeOption .text text

/-- A list of values. -/
def writeList {α : Type} (write : α → Json) (items : List α) : Json := .list (items.map write)

/-- A map from texts. -/
def writeTextDict {α : Type} (write : α → Json) (dict : Dict String α) : Json :=
  .object (dict.entries.map fun (key, value) => (key, write value))

/-- A decimal with all its places, in a text. -/
def ofDecimal (decimal : Decimal) : Json := .text decimal.write

/-- An amount with the places that it shows, in a text. -/
def ofAmount (amount : Amount) : Json := ofDecimal amount.value

/-- A time in a text. -/
def ofInstant (instant : Instant) : Json := .text instant.write

/-- A field that is left out where its value is missing. -/
def optionalField {α : Type} (name : String) (write : α → Json) :
    Option α → List (String × Json)
  | some value => [(name, write value)]
  | none => []

end Paydesk.Json
