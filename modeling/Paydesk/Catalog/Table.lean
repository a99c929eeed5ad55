/-
**Looking things up in the catalog.**

Projects and payment methods are found by their ids, currencies by their letter codes in either
case. Whatever is added under a name replaces what was there.

* `Catalog.methodsKeyed`: a payment method is found by no other id than its own;
* `Catalog.project?`, `Catalog.method?`, `Catalog.currency?`: the three look-ups;
* `CatalogError`: why a look-up in a catalog kept elsewhere fails.
-/

import Paydesk.Catalog

namespace Paydesk

/-- Why nothing could be looked up. -/
inductive CatalogError where
  | unavailable (reason : String)
  deriving DecidableEq

/-- The text of an error. -/
def CatalogError.message : CatalogError → String
  | unavailable reason => s!"Catalog service is unavailable: {reason}"

/-- Projects, payment methods and currencies by name. -/
structure Catalog where
  projects : Dict String Project := ∅
  methods : Dict String PaymentMethod := ∅
  /-- The currencies by their codes in capitals. -/
  currencies : Dict String Currency := ∅
  /-- A method is found by its own id. -/
  methodsKeyed : ∀ id method, methods.get? id = some method → method.id = id := by simp

namespace Catalog

/-- The catalog without entries. -/
def empty : Catalog := {}

/-- Adds a project. -/
def addProject (catalog : Catalog) (project : Project) : Catalog :=
  { catalog with projects := catalog.projects.insert project.id project }

/-- Adds a payment method. -/
def addMethod (catalog : Catalog) (method : PaymentMethod) : Catalog :=
  { catalog with
    methods := catalog.methods.insert method.id method
    methodsKeyed := by
      intro id found look
      by_cases same : id = method.id
      · rw [same, Dict.get?_insert_self, Option.some.injEq] at look
        rw [same, look]
      · rw [Dict.get?_insert_of_ne _ same] at look
        exact catalog.methodsKeyed id found look }

/-- Adds a currency. -/
def addCurrency (catalog : Catalog) (currency : Currency) : Catalog :=
  { catalog with
    currencies := catalog.currencies.insert (Text.upperCase currency.code) currency }

/-- The project of an id. -/
def project? (catalog : Catalog) (id : String) : Option Project := catalog.projects.get? id

/-- The payment method of an id. -/
def method? (catalog : Catalog) (id : String) : Option PaymentMethod := catalog.methods.get? id

/-- The currency of a code in either letter case. -/
def currency? (catalog : Catalog) (code : String) : Option Currency :=
  catalog.currencies.get? (Text.upperCase code)

end Catalog

end Paydesk
