/-
**Outages.**

A party can be made to fail by name until it is restored. Every call is served by one or more
names, of which the general one comes first.

* `Outages.reason?`: why a party fails;
* `Call.services`: the names that serve a call;
* `Call.broken?`: what comes back from a call whose party fails.
-/

import Paydesk.Flow.Call

namespace Paydesk

/-- The parties that fail, and why. -/
abbrev Outages : Type := Dict String String

namespace Outages

/-- Makes a party fail for a reason, or restores it. -/
def set (outages : Outages) (service : String) : Option String → Outages
  | some reason => outages.insert service reason
  | none => outages.filter fun name _ => name != service

/-- Why the first of several parties that fail does so. -/
def reason? (outages : Outages) (services : List String) : Option String :=
  services.findSome? outages.get?

end Outages

namespace Call

/-- The names of what serves a call; a store fails on its own. -/
def services : Call → List String
  | project _ => ["projects"]
  | method _ => ["methods"]
  | currency code => ["currencies", s!"currency {code}"]
  | convert base quote _ => ["rates", s!"rate {base}/{quote}"]
  | commission _ _ _ => ["commission"]
  | vat _ _ _ => ["vat"]
  | locate _ => ["geo"]
  | publish _ => ["broker"]
  | _ => []

/-- What comes back from a call whose party fails. -/
def broken? (reason : String) : (question : Call) → Option question.Answer
  | project _ => some (.error (.unavailable reason))
  | method _ => some (.error (.unavailable reason))
  | currency _ => some (.error (.unavailable reason))
  | convert _ _ _ => some (.error (.unavailable reason))
  | commission _ _ _ => some (.error (.service reason))
  | vat _ _ _ => some (.error (.service reason))
  | locate _ => some (.error (.service reason))
  | publish message => some (.error (.failed message.topic reason))
  | _ => none

end Call

end Paydesk
