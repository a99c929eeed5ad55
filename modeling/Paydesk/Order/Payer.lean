/-
**The payer.**

What is known of the person who pays: an address on the network, a place, and ways to be reached.
-/

import Paydesk.Json.Record
import Paydesk.Network.Address

namespace Paydesk

/-- What is known of a payer. -/
structure Payer where
  ip : Option Address := none
  country : Option String := none
  city : Option String := none
  subdivision : Option String := none
  timezone : Option String := none
  email : Option String := none
  phone : Option String := none
  deriving DecidableEq

/-- The address of a document. -/
def Address.ofJson? (json : Json) : Option Address := json.text? >>= Address.read?

/-- The document of an address. -/
def Address.toJson (address : Address) : Json := .text address.write

namespace Payer

/-- The payer of a document. -/
def read? : Json → Option Payer :=
  Json.readRecord? do
    let ip ← Json.optionalPart "ip" Address.ofJson?
    let country ← Json.optionalPart "country" Json.text?
    let city ← Json.optionalPart "city" Json.text?
    let subdivision ← Json.optionalPart "subdivision" Json.text?
    let timezone ← Json.optionalPart "timezone" Json.text?
    let email ← Json.optionalPart "email" Json.text?
    let phone ← Json.optionalPart "phone" Json.text?
    return { ip, country, city, subdivision, timezone, email, phone }

/-- The document of a payer. -/
def write (payer : Payer) : Json :=
  .object
    [("ip", Json.writeOption Address.toJson payer.ip), ("country", Json.ofText? payer.country),
      ("city", Json.ofText? payer.city), ("subdivision", Json.ofText? payer.subdivision),
      ("timezone", Json.ofText? payer.timezone), ("email", Json.ofText? payer.email),
      ("phone", Json.ofText? payer.phone)]

end Payer

end Paydesk
