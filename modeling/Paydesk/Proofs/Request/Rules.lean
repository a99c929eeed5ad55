/-
**The rules for new orders.**

A request for an order has to keep to rules, which are told here by what the desk's tables, the
store and the settings hold: which facts break a rule, and what breaking it leads to. A rule about
something that a request does not have, such as the limits of a method that it does not ask for,
is not broken.

* `Rule`, `OrderRequest.rules`: the rules in order, with one for every parameter passed through;
* `OrderRequest.Breaks`: **what breaks a rule**, and what it leads to;
* `Project.Maps`, `Project.mapping?_eq_some_iff`: the method that an alias stands for is the one
  added last.
-/

import Paydesk.Desk.World
import Paydesk.Flow.Intake
import Paydesk.Proofs.Decimal.Minor
import Paydesk.Proofs.Desk.Checks
import Paydesk.Proofs.Time.Millis

namespace Paydesk

/-! ### Rules -/

/-- The fields that have a fixed form. -/
inductive FormedField where
  | currency
  | region
  | urlVerify
  | urlNotify
  | urlSuccess
  | urlFail
  deriving DecidableEq

namespace FormedField

/-- The name that a field is sent under. -/
def name : FormedField → String
  | currency => "PP_CURRENCY"
  | region => "PP_REGION"
  | urlVerify => "PP_URL_VERIFY"
  | urlNotify => "PP_URL_NOTIFY"
  | urlSuccess => "PP_URL_SUCCESS"
  | urlFail => "PP_URL_FAIL"

/-- The text of a field in a request. -/
def text? (request : OrderRequest) : FormedField → Option String
  | currency => request.currency
  | region => request.region
  | urlVerify => request.urlVerify
  | urlNotify => request.urlNotify
  | urlSuccess => request.urlSuccess
  | urlFail => request.urlFail

/-- Whether a text has the form of a field. -/
def isFormed : FormedField → String → Bool
  | currency => isCurrencyCode
  | region => isRegionCode
  | urlVerify | urlNotify | urlSuccess | urlFail => isUrl

/-- The fields in the order in which they are looked at. -/
def all : List FormedField := [currency, region, urlVerify, urlNotify, urlSuccess, urlFail]

end FormedField

/-- A rule that a request for an order has to keep to. -/
inductive Rule where
  | form (field : FormedField)
  | projectKnown
  | projectActive
  | currencyKnown
  | signature
  | methodMapped
  | methodKnown
  | methodActive
  | systemPresent
  | systemActive
  /-- The amount has a value in the currency of the project's limits. -/
  | projectRate
  | projectLeast
  | projectMost
  /-- The amount has a value in the method's currency. -/
  | methodRate
  | methodLeast
  | methodMost
  /-- The store can tell whether the merchant's own id is in use. -/
  | clientIdLooked
  | clientIdNew
  | notifyUrls
  | redirectUrls
  | place
  | regionSold
  | packageSold
  /-- A value is stored as a parameter after so many others. -/
  | param (count : Nat) (entry : String × Json)

/-- The rules between those for the forms of fields and those for parameters. -/
def Rule.fixed : List Rule :=
  [projectKnown, projectActive, currencyKnown, signature, methodMapped, methodKnown, methodActive,
    systemPresent, systemActive, projectRate, projectLeast, projectMost, methodRate, methodLeast,
    methodMost, clientIdLooked, clientIdNew, notifyUrls, redirectUrls, place, regionSold,
    packageSold]

namespace OrderRequest

/-- The entries that become parameters: those of no reserved name with a value that is not null. -/
def paramEntries (request : OrderRequest) : List (String × Json) :=
  (request.other.entries.filter (!isReserved ·.1)).filter (!·.2.isNull)

/-- All rules for a request in the order in which they count. -/
def rules (request : OrderRequest) : List Rule :=
  FormedField.all.map Rule.form ++ (Rule.fixed ++ request.paramEntries.mapIdx Rule.param)

end OrderRequest

/-! ### What breaks a rule -/

/-- The mapping added last; among several added at one time the last of the list. -/
def IsLatest (mappings : List MethodMapping) (mapping : MethodMapping) : Prop :=
  ∃ before after, mappings = before ++ mapping :: after
    ∧ (∀ other ∈ before, other.addedAt.atMost mapping.addedAt)
    ∧ ∀ other ∈ after, ¬mapping.addedAt.atMost other.addedAt

/-- A project takes a payment method under an alias. -/
def Project.Maps (project : Project) (name : String) (mapping : MethodMapping) : Prop :=
  ∃ mappings, project.methods.get? name = some mappings ∧ IsLatest mappings mapping

/-- A project sells a package in a region. -/
def Project.Sells (project : Project) (region : String) (package : FixedPackage) : Prop :=
  ∃ packages, project.packages.get? region = some packages ∧ package ∈ packages

/-- A package can be had for an amount of a currency. -/
structure FixedPackage.IsPaidBy (package : FixedPackage) (amount : Amount) (currency : String) :
    Prop where
  active : package.isActive
  price : package.price.minor = amount.minor
  currency : Text.sameLetters package.currency currency

/-- What keeps a value from being a parameter of a name. -/
inductive Unstorable (name : String) : Json → ParamError → Prop
  | list (items : List Json) : Unstorable name (.list items) (.notPrimitive name)
  | object (fields : List (String × Json)) : Unstorable name (.object fields) (.notPrimitive name)
  | int {number : Int} (large : Decimal.limit ≤ number.natAbs) :
    Unstorable name (.int number) (.outOfRange name)
  | float {number : Binary64} {error : NumeralError}
    (unread : Decimal.read number.writeShort = .error error) :
    Unstorable name (.float number) (.outOfRange name)

namespace OrderRequest

section Facts

variable {σ : Type} (world : World σ) (request : OrderRequest)

/-- A request is for a project. -/
def IsFor (project : Project) : Prop := world.desk.catalog.project? request.projectId = some project

/-- A request for a project pays in a currency: the one it names, or else that of the limits. -/
def PaysIn (project : Project) (currency : Currency) : Prop :=
  world.desk.catalog.currency? (request.currencyCode project) = some currency

/-- A request for a project asks for a payment method. -/
def AsksFor (project : Project) (method : PaymentMethod) : Prop :=
  ∃ name mapping, request.method = some name ∧ project.Maps name mapping
    ∧ world.desk.catalog.method? mapping.id = some method

/-- What the amount of a request for a project comes to in another currency. -/
def ComesTo (project : Project) (code : String) (result : Except RateError Amount) : Prop :=
  ∃ currency, request.PaysIn world project currency
    ∧ world.desk.rates.convert currency.code code request.amount = result

/-- A payer is at a place; a request without the payer's address is from nowhere. -/
def IsFrom (place : Location) : Prop :=
  match request.payerIp with
  | some address => world.desk.places.locate address = .ok place
  | none => place = {}

/-- A request for a project that sells packages wants one in a region: the one it names, or else
the payer's country. -/
def Wants (project : Project) (region : String) : Prop :=
  (∃ packages ∈ project.packages.values, packages ≠ [])
    ∧ ∃ place, request.IsFrom world place ∧ region = (request.region.or place.country).getD ""

/-- A request is not signed as it has to be. -/
def IsMissigned (settings : Settings) (request : OrderRequest) (project : Project) : Prop :=
  (request.signature = none ∧ settings.requireSignature) ∨
    ∃ signature, request.signature = some signature
      ∧ ¬isSignedBy request.rawParams project.secretKey.reveal signature

end Facts

/-- **A request breaks a rule**, which leads to a stop. -/
def Breaks {σ : Type} [OrderStore σ] (world : World σ) (settings : Settings)
    (request : OrderRequest) : Rule → Stop → Prop
  | .form field, stop =>
    ∃ text, field.text? request = some text ∧ ¬field.isFormed text
      ∧ stop = .refused (.malformedField field.name)
  | .projectKnown, stop =>
    (∀ project, ¬request.IsFor world project) ∧ stop = .refused .projectNotFound
  | .projectActive, stop =>
    ∃ project, request.IsFor world project ∧ ¬project.isActive ∧ stop = .refused .projectInactive
  | .currencyKnown, stop =>
    ∃ project, request.IsFor world project ∧ (∀ currency, ¬request.PaysIn world project currency)
      ∧ stop = .refused .currencyNotFound
  | .signature, stop =>
    ∃ project, request.IsFor world project ∧ request.IsMissigned settings project
      ∧ stop = .refused .badSignature
  | .methodMapped, stop =>
    ∃ project name, request.IsFor world project ∧ request.method = some name
      ∧ (∀ mapping, ¬project.Maps name mapping) ∧ stop = .refused .methodNotAllowed
  | .methodKnown, stop =>
    ∃ project name mapping, request.IsFor world project ∧ request.method = some name
      ∧ project.Maps name mapping ∧ world.desk.catalog.method? mapping.id = none
      ∧ stop = .refused .methodNotFound
  | .methodActive, stop =>
    ∃ project method, request.IsFor world project ∧ request.AsksFor world project method
      ∧ ¬method.isActive ∧ stop = .refused .methodInactive
  | .systemPresent, stop =>
    ∃ project method, request.IsFor world project ∧ request.AsksFor world project method
      ∧ method.system = none ∧ stop = .refused .systemNotFound
  | .systemActive, stop =>
    ∃ project method, request.IsFor world project ∧ request.AsksFor world project method
      ∧ (∃ system, method.system = some system ∧ ¬system.isActive)
      ∧ stop = .refused .systemInactive
  | .projectRate, stop =>
    ∃ project error, request.IsFor world project
      ∧ request.ComesTo world project project.limitsCurrency (.error error)
      ∧ stop = .failed (.conversion error)
  | .projectLeast, stop =>
    ∃ project limited, request.IsFor world project
      ∧ request.ComesTo world project project.limitsCurrency (.ok limited)
      ∧ limited.minor < project.least.minor ∧ stop = .refused .belowProjectLeast
  | .projectMost, stop =>
    ∃ project limited, request.IsFor world project
      ∧ request.ComesTo world project project.limitsCurrency (.ok limited)
      ∧ project.most.minor < limited.minor ∧ stop = .refused .aboveProjectMost
  | .methodRate, stop =>
    ∃ project method error, request.IsFor world project ∧ request.AsksFor world project method
      ∧ request.ComesTo world project method.currency (.error error)
      ∧ stop = .failed (.conversion error)
  | .methodLeast, stop =>
    ∃ project method outcome, request.IsFor world project ∧ request.AsksFor world project method
      ∧ request.ComesTo world project method.currency (.ok outcome)
      ∧ outcome.minor < method.least.minor ∧ stop = .refused .belowMethodLeast
  | .methodMost, stop =>
    ∃ project method outcome, request.IsFor world project ∧ request.AsksFor world project method
      ∧ request.ComesTo world project method.currency (.ok outcome)
      ∧ method.most.minor < outcome.minor ∧ stop = .refused .aboveMethodMost
  | .clientIdLooked, stop =>
    ∃ project clientId error, request.IsFor world project ∧ request.orderId = some clientId
      ∧ clientId ≠ "" ∧ OrderStore.fetchByClientId world.store project.id clientId = .error error
      ∧ stop = .ofStore error
  | .clientIdNew, stop =>
    ∃ project clientId order, request.IsFor world project ∧ request.orderId = some clientId
      ∧ clientId ≠ "" ∧ OrderStore.fetchByClientId world.store project.id clientId = .ok (some order)
      ∧ stop = .refused .duplicateClientId
  | .notifyUrls, stop =>
    ∃ project, request.IsFor world project ∧ ¬project.allowsNotifyUrls
      ∧ (request.urlVerify ≠ none ∨ request.urlNotify ≠ none)
      ∧ stop = .refused .notifyUrlsNotAllowed
  | .redirectUrls, stop =>
    ∃ project, request.IsFor world project ∧ ¬project.allowsRedirectUrls
      ∧ (request.urlSuccess ≠ none ∨ request.urlFail ≠ none)
      ∧ stop = .refused .redirectUrlsNotAllowed
  | .place, stop => (∀ place, ¬request.IsFrom world place) ∧ stop = .refused .unknownRegion
  | .regionSold, stop =>
    ∃ project region, request.IsFor world project ∧ request.Wants world project region
      ∧ (∀ package, ¬project.Sells region package) ∧ stop = .refused .noPackagesInRegion
  | .packageSold, stop =>
    ∃ project region currency, request.IsFor world project ∧ request.Wants world project region
      ∧ request.PaysIn world project currency
      ∧ (∀ package, project.Sells region package → ¬package.IsPaidBy request.amount currency.code)
      ∧ stop = .refused .packageNotFound
  | .param count entry, stop =>
    ∃ error, (Unstorable entry.1 entry.2 error
        ∨ (∀ other, ¬Unstorable entry.1 entry.2 other) ∧ Params.capacity ≤ count
          ∧ error = .tooMany)
      ∧ stop = .refused (.badParameter error)

end OrderRequest

/-! ### The method of an alias -/

namespace IsLatest

variable {mappings : List MethodMapping} {mapping other : MethodMapping}

/-- Only one mapping is the latest. -/
theorem eq (first : IsLatest mappings mapping) (second : IsLatest mappings other) :
    mapping = other := by
  obtain ⟨before, after, split, upTo, past⟩ := first
  obtain ⟨earlier, rest, other_split, upTo_other, past_other⟩ := second
  rcases split_cases (split.symm.trans other_split) with
    ⟨-, same, -⟩ | ⟨inside, beyond⟩ | ⟨inside, beyond⟩
  · exact same
  · exact absurd (upTo_other mapping inside) (past other beyond)
  · exact absurd (upTo other inside) (past_other mapping beyond)

/-- The latest mapping stays the latest behind one that is no later. -/
theorem cons_later (latest : IsLatest mappings mapping)
    (upTo : other.addedAt.atMost mapping.addedAt) : IsLatest (other :: mappings) mapping := by
  obtain ⟨before, after, rfl, isUpTo, past⟩ := latest
  exact ⟨other :: before, after, rfl, List.forall_mem_cons.mpr ⟨upTo, isUpTo⟩, past⟩

/-- A mapping is the latest in front of others if it is later than the latest of them. -/
theorem cons_head (latest : IsLatest mappings mapping)
    (past : ¬other.addedAt.atMost mapping.addedAt) : IsLatest (other :: mappings) other := by
  obtain ⟨before, after, rfl, upTo, isPast⟩ := latest
  refine ⟨[], _, rfl, by simp, fun one member upTo_one => past ?_⟩
  have upTo_latest : one.addedAt.atMost mapping.addedAt := by
    rcases List.mem_append.mp member with inside | inside
    · exact upTo one inside
    · rcases List.mem_cons.mp inside with rfl | inside
      · exact Instant.atMost_refl _
      · exact Instant.atMost_of_not (isPast one inside)
  exact Instant.atMost_trans upTo_one upTo_latest

end IsLatest

namespace Project

theorem latest?_spec (mappings : List MethodMapping) :
    (latest? mappings = none ∧ mappings = []) ∨
      ∃ mapping, latest? mappings = some mapping ∧ IsLatest mappings mapping := by
  induction mappings with
  | nil => exact .inl ⟨rfl, rfl⟩
  | cons mapping rest hypothesis =>
    right
    rcases hypothesis with ⟨missing, rfl⟩ | ⟨later, found, latest⟩
    · exact ⟨mapping, by rw [latest?, missing], [], [], rfl, by simp, by simp⟩
    · rw [latest?, found]
      by_cases upTo : mapping.addedAt.atMost later.addedAt
      · exact ⟨later, if_pos upTo, latest.cons_later upTo⟩
      · exact ⟨mapping, if_neg upTo, latest.cons_head upTo⟩

/-- **An alias stands for the mapping added last.** -/
theorem mapping?_eq_some_iff (project : Project) (name : String) (mapping : MethodMapping) :
    project.mapping? name = some mapping ↔ project.Maps name mapping := by
  unfold mapping? Maps
  cases project.methods.get? name with
  | none => simp
  | some mappings =>
    simp only [Option.bind_eq_bind, Option.bind_some, Option.some.injEq, exists_eq_left']
    rcases latest?_spec mappings with ⟨missing, rfl⟩ | ⟨latest, found, isLatest⟩
    · simp [missing, IsLatest]
    · rw [found, Option.some.injEq]
      exact ⟨fun same => same ▸ isLatest, isLatest.eq⟩

end Project

/-! ### What is found is the only one -/

namespace OrderRequest

variable {σ : Type} {world : World σ} {request : OrderRequest} {project : Project}
  {currency : Currency}

theorem IsFor.iff (isFor : request.IsFor world project) (other : Project) :
    request.IsFor world other ↔ other = project := by
  unfold IsFor at isFor ⊢
  rw [isFor, Option.some.injEq, eq_comm]

theorem PaysIn.iff (paysIn : request.PaysIn world project currency) (other : Currency) :
    request.PaysIn world project other ↔ other = currency := by
  unfold PaysIn at paysIn ⊢
  rw [paysIn, Option.some.injEq, eq_comm]

theorem IsFrom.iff {place : Location} (isFrom : request.IsFrom world place) (other : Location) :
    request.IsFrom world other ↔ other = place := by
  unfold IsFrom at isFrom ⊢
  split
  · rename_i address given
    rw [given] at isFrom
    rw [isFrom, Except.ok.injEq, eq_comm]
  · rename_i missing
    rw [missing] at isFrom
    rw [isFrom]

theorem comesTo_iff (paysIn : request.PaysIn world project currency) (code : String)
    (result : Except RateError Amount) :
    request.ComesTo world project code result ↔
      world.desk.rates.convert currency.code code request.amount = result := by
  simp [ComesTo, paysIn.iff]

theorem asksFor_iff (method : PaymentMethod) : request.AsksFor world project method ↔
    ∃ name mapping, request.method = some name ∧ project.mapping? name = some mapping
      ∧ world.desk.catalog.method? mapping.id = some method := by
  simp only [AsksFor, Project.mapping?_eq_some_iff]

end OrderRequest

end Paydesk
