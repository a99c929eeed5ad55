/-
**The desk's own tables.**

Everything that a flow asks for but the store, the broker and the hooks: the catalog, the rates,
commissions, taxes, places and payment handlers.

* `Desk`: the tables together.
-/

import Paydesk.Catalog.Table
import Paydesk.Exchange.RateTable
import Paydesk.Network.Location
import Paydesk.Payment.Handler
import Paydesk.Pricing.Vat

namespace Paydesk

/-- The tables that flows look things up in. -/
structure Desk where
  catalog : Catalog := .empty
  rates : RateTable := .empty
  commissions : CommissionTable := .empty
  vat : VatTable := .empty
  places : LocationTable := .empty
  handlers : HandlerRegistry := .empty

namespace Desk

/-- The desk without any entries. -/
def empty : Desk := {}

end Desk

end Paydesk
