/-
**Errors of stores.**

* `StoreError.name`, `StoreError.message`: an error in a word and in a sentence.
-/

import Paydesk.Amount

namespace Paydesk

/-- Why a store refuses a request. -/
inductive StoreError where
  | failed (reason : String)
  | taken (id : String)
  | missing (id : String)
  /-- An order was changed since the version that a change is based on. -/
  | conflict (id : String) (expected found : Int64)
  /-- A document that cannot be written or read. -/
  | badDocument (reason : String)
  /-- A version that cannot go up. -/
  | overflow (overflow : Overflow)
  deriving DecidableEq

/-- The name of an error. -/
def StoreError.name : StoreError → String
  | failed _ => "DatabaseError"
  | taken _ => "OrderAlreadyExists"
  | missing _ => "OrderNotFound"
  | conflict _ _ _ => "VersionConflict"
  | badDocument _ => "SerializationError"
  | overflow _ => "Overflow"

/-- The text of an error. -/
def StoreError.message : StoreError → String
  | failed reason => s!"Database error: {reason}"
  | taken id => s!"Order {id} already exists"
  | missing id => s!"Order {id} does not exist"
  | conflict id expected found =>
    s!"Order {id} was modified concurrently. Expected version {expected.toInt}, "
      ++ s!"but found {found.toInt}"
  | badDocument reason => s!"Could not (de)serialize order document: {reason}"
  | overflow cause => cause.message

end Paydesk
