/-
**Where an address is.**

A table names the places of single addresses; an address that is not listed has none.

* `Location.read?`: a place of a document;
* `LocationTable.locate`: the place of an address.
-/

import Paydesk.Json.Record
import Paydesk.Network.Address

namespace Paydesk

/-- What is known of a place. -/
structure Location where
  country : Option String := none
  city : Option String := none
  subdivision : Option String := none
  timezone : Option String := none
  deriving DecidableEq

/-- The place of a document; what is not known may be left out. -/
def Location.read? (json : Json) : Option Location := do
  let read (name : String) : Option (Option String) :=
    Json.readOption? Json.text? ((json.field? name).getD .null)
  return { country := ← read "country", city := ← read "city"
           subdivision := ← read "subdivision", timezone := ← read "timezone" }

/-- Why there is no place. -/
inductive LocationError where
  | notFound (address : Address)
  | service (reason : String)
  deriving DecidableEq

/-- The text of an error. -/
def LocationError.message : LocationError → String
  | notFound address => s!"No location is known for {address.write}"
  | service reason => s!"Geo service error: {reason}"

/-- Places of addresses, the latest first. -/
structure LocationTable where
  places : List (Address × Location) := []

namespace LocationTable

/-- The table without places. -/
def empty : LocationTable := {}

/-- Sets the place of an address. -/
def set (table : LocationTable) (address : Address) (place : Location) : LocationTable :=
  ⟨(address, place) :: table.places.filter fun entry => entry.1 != address⟩

/-- The place of an address. -/
def locate (table : LocationTable) (address : Address) : Except LocationError Location :=
  match table.places.find? (·.1 == address) with
  | some (_, place) => .ok place
  | none => .error (.notFound address)

end LocationTable

end Paydesk
