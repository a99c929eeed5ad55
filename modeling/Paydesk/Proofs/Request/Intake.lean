/-
**Requests are checked by the rules.**

Every step of checking a request checks some of the rules, and the steps come in the order of the
rules. So a request is taken exactly when it breaks none, and otherwise it is refused for the first
rule that it breaks.

* `checks_forms`, …, `checks_passthrough`: the steps and their rules;
* `breaks_clientIdNew_iff`: what it means for orders in memory that an id is in use;
* `Params.setJson_eq_error_iff`: what keeps a value from becoming a parameter;
* `OrderRequest.check_decides`: **all rules in order**.
-/

import Paydesk.Proofs.Dict
import Paydesk.Proofs.Request.Rules
import Paydesk.Store.Memory

namespace Paydesk

open World

variable {σ : Type} [OrderStore σ] {world : World σ} {settings : Settings} {request : OrderRequest}

namespace OrderRequest

variable {project : Project} {currency : Currency}

/-! ### Forms -/

theorem formedFields_eq : request.formedFields
    = FormedField.all.map fun field => (field.name, (field.text? request).all field.isFormed) :=
  rfl

/-- The fields of a list are looked at one by one. -/
theorem checks_formedFields (fields : List FormedField) :
    Checks world (request.Breaks world settings) (fields.map Rule.form)
      (.refuseIf ((((fields.map fun field =>
        (field.name, (field.text? request).all field.isFormed)).find? (!·.2)).map (·.1)).map
          .malformedField)) fun _ => True := by
  induction fields with
  | nil => exact .free (gives_done ()) trivial
  | cons field rest hypothesis =>
    rw [List.map_cons, List.map_cons, List.find?_cons]
    cases formed : (field.text? request).all field.isFormed with
    | true =>
      refine .cons_unbroken ?_ hypothesis
      rintro stop ⟨text, given, malformed, -⟩
      rw [given, Option.all_some] at formed
      exact malformed formed
    | false =>
      refine .broken (gives_refuse (.malformedField field.name)) fun stop => ?_
      obtain ⟨text, given, malformed⟩ : ∃ text, field.text? request = some text
          ∧ field.isFormed text = false := by
        cases given : field.text? request with
        | none => rw [given] at formed; nomatch formed
        | some text => rw [given] at formed; exact ⟨text, rfl, formed⟩
      simp [Breaks, given, malformed]

theorem checks_forms :
    Checks world (request.Breaks world settings) (FormedField.all.map Rule.form)
      (.refuseIf (request.malformedField?.map .malformedField)) fun _ => True := by
  rw [malformedField?, formedFields_eq]
  exact checks_formedFields FormedField.all

/-! ### The project, the currency and the signature -/

theorem checks_findProject :
    Checks world (request.Breaks world settings) [.projectKnown, .projectActive]
      request.findProject (request.IsFor world) := by
  refine .look (gives_project _) (.step (.orRefuse fun stop => ?_) fun project isFor => ?_)
  · simp [Breaks, IsFor, Option.eq_none_iff_forall_ne_some]
  · refine .step (.require fun stop => ?_) fun _ _ => .free (gives_done project) isFor
    simp [Breaks, IsFor.iff isFor]

theorem checks_currency (isFor : request.IsFor world project) :
    Checks world (request.Breaks world settings) [.currencyKnown]
      (.orRefuse .currencyNotFound
        (world.desk.catalog.currency? (request.currencyCode project)))
      (request.PaysIn world project) :=
  .orRefuse fun stop => by
    simp [Breaks, isFor.iff, PaysIn, Option.eq_none_iff_forall_ne_some]

theorem isProperlySigned_eq_false_iff :
    request.isProperlySigned settings project = false ↔ request.IsMissigned settings project := by
  unfold isProperlySigned IsMissigned
  cases request.signature with
  | none => simp
  | some signature => simp

theorem checks_signature (isFor : request.IsFor world project) :
    Checks world (request.Breaks world settings) [.signature]
      (.require (request.isProperlySigned settings project) .badSignature) fun _ => True := by
  refine .mono (.require fun stop => ?_) fun _ _ => trivial
  simp [Breaks, isFor.iff, isProperlySigned_eq_false_iff]

/-! ### The method -/

/-- What is found of the method that a request asks for: nothing if it asks for none. -/
def FindsMethod (world : World σ) (request : OrderRequest) (project : Project)
    (usable : Option (PaymentMethod × PaymentSystem)) : Prop :=
  ∀ method, request.AsksFor world project method ↔ usable.map (·.1) = some method

theorem checks_usableSystem {method : PaymentMethod} (isFor : request.IsFor world project)
    (asksFor : ∀ other, request.AsksFor world project other ↔ other = method) :
    Checks world (request.Breaks world settings) [.methodActive, .systemPresent, .systemActive]
      (.orRefused method.usableSystem) fun _ => True := by
  unfold PaymentMethod.usableSystem
  cases active : method.isActive with
  | false =>
    exact .broken (gives_refuse .methodInactive) fun stop => by
      simp [Breaks, isFor.iff, asksFor, active]
  | true =>
    refine .cons_unbroken (by simp [Breaks, isFor.iff, asksFor, active]) ?_
    cases present : method.system with
    | none =>
      exact .broken (gives_refuse .systemNotFound) fun stop => by
        simp [Breaks, isFor.iff, asksFor, present]
    | some system =>
      refine .cons_unbroken (by simp [Breaks, isFor.iff, asksFor, present]) ?_
      change Checks _ _ _
        (.orRefused (if system.isActive then .ok system else .error .systemInactive)) _
      cases usable : system.isActive with
      | false =>
        exact .broken (gives_refuse .systemInactive) fun stop => by
          simp [Breaks, isFor.iff, asksFor, present, usable]
      | true =>
        refine .cons_unbroken ?_ (.free (gives_done system) trivial)
        simp [Breaks, isFor.iff, asksFor, present, usable]

theorem checks_usableMethod {name : String} {mapping : MethodMapping}
    (isFor : request.IsFor world project) (asked : request.method = some name)
    (maps : project.mapping? name = some mapping) :
    Checks world (request.Breaks world settings)
      [.methodKnown, .methodActive, .systemPresent, .systemActive] (.usableMethod mapping.id)
      fun pair => ∀ method, request.AsksFor world project method ↔ method = pair.1 := by
  refine .look (gives_method mapping.id) (.step (.orRefuse fun stop => ?_) fun method known => ?_)
  · simp [Breaks, isFor.iff, asked, ← Project.mapping?_eq_some_iff, maps]
  · have asksFor (other : PaymentMethod) :
        request.AsksFor world project other ↔ other = method := by
      simp [asksFor_iff, asked, maps, known, eq_comm]
    exact (checks_usableSystem isFor asksFor).bind fun system _ => .free (gives_done _) asksFor

theorem checks_findMethod (isFor : request.IsFor world project) :
    Checks world (request.Breaks world settings)
      [.methodMapped, .methodKnown, .methodActive, .systemPresent, .systemActive]
      (request.findMethod project) (request.FindsMethod world project) := by
  unfold findMethod
  split
  · rename_i unasked
    have asksNone : request.FindsMethod world project none := by
      simp [FindsMethod, asksFor_iff, unasked]
    exact .passes (gives_done none) asksNone (by simp [Unbroken, Breaks, asksFor_iff, unasked])
  · rename_i name asked
    refine .step (.orRefuse fun stop => ?_) fun mapping maps => ?_
    · simp [Breaks, isFor.iff, asked, ← Project.mapping?_eq_some_iff,
        Option.eq_none_iff_forall_ne_some]
    · refine (checks_usableMethod isFor asked maps).bind fun pair asksFor => ?_
      exact .free (gives_done (some pair)) fun method => by simp [asksFor, eq_comm]

/-! ### Limits -/

/-- An amount is looked at from below and then from above. -/
theorem checks_outsideLimits {lower upper : Rule} {least most amount : Amount}
    {below above : Refusal}
    (below_iff : ∀ stop, request.Breaks world settings lower stop ↔
      amount.minor < least.minor ∧ stop = .refused below)
    (above_iff : ∀ stop, request.Breaks world settings upper stop ↔
      most.minor < amount.minor ∧ stop = .refused above) :
    Checks world (request.Breaks world settings) [lower, upper]
      (.refuseIf (outsideLimits? least most amount below above)) fun _ => True := by
  have too_little : compare amount least == .lt ↔ amount.minor < least.minor := by
    rw [Amount.compare_eq_minor, beq_iff_eq, compare_lt_iff_lt]
  have too_much : compare amount most == .gt ↔ most.minor < amount.minor := by
    rw [Amount.compare_eq_minor, beq_iff_eq, compare_gt_iff_gt]
  unfold outsideLimits?
  by_cases less : amount.minor < least.minor
  · rw [if_pos (too_little.mpr less)]
    refine .broken (gives_refuse below) ?_
    intro stop
    simp [below_iff, less]
  · rw [if_neg (too_little.not.mpr less)]
    refine .cons_unbroken (by simp [below_iff, less]) ?_
    by_cases more : most.minor < amount.minor
    · rw [if_pos (too_much.mpr more)]
      refine .broken (gives_refuse above) ?_
      intro stop
      simp [above_iff, more]
    · rw [if_neg (too_much.not.mpr more)]
      exact .cons_unbroken (by simp [above_iff, more]) (.free (gives_done ()) trivial)

theorem checks_requireLimits (isFor : request.IsFor world project)
    (paysIn : request.PaysIn world project currency) :
    Checks world (request.Breaks world settings) [.projectRate, .projectLeast, .projectMost]
      (project.requireLimits currency.code request.amount) fun _ => True := by
  refine .step (.attempt (gives_convert _ _ _) fun stop => ?_) fun limited converted => ?_
  · simp [Breaks, isFor.iff, comesTo_iff paysIn]
  · refine checks_outsideLimits (fun stop => ?_) fun stop => ?_
    all_goals simp [Breaks, isFor.iff, comesTo_iff paysIn, converted]

theorem checks_withinLimits {method : PaymentMethod} (isFor : request.IsFor world project)
    (paysIn : request.PaysIn world project currency)
    (asksFor : ∀ other, request.AsksFor world project other ↔ other = method) :
    Checks world (request.Breaks world settings) [.methodRate, .methodLeast, .methodMost]
      (method.withinLimits currency.code request.amount) fun _ => True := by
  refine .step (.attempt (gives_convert _ _ _) fun stop => ?_) fun outcome converted => ?_
  · simp [Breaks, isFor.iff, asksFor, comesTo_iff paysIn]
  · refine (checks_outsideLimits (fun stop => ?_) fun stop => ?_).bind fun _ _ =>
      .free (gives_done outcome) trivial
    all_goals simp [Breaks, isFor.iff, asksFor, comesTo_iff paysIn, converted]

theorem checks_chooseMethod {usable : Option (PaymentMethod × PaymentSystem)}
    (isFor : request.IsFor world project) (paysIn : request.PaysIn world project currency)
    (finds : request.FindsMethod world project usable) :
    Checks world (request.Breaks world settings) [.methodRate, .methodLeast, .methodMost]
      (request.chooseMethod currency.code usable) fun _ => True := by
  rcases usable with - | ⟨method, system⟩
  · have unasked (method : PaymentMethod) : ¬request.AsksFor world project method := by
      rw [finds]
      simp
    exact .passes (gives_done none) trivial (by simp [Unbroken, Breaks, isFor.iff, unasked])
  · have asksFor (other : PaymentMethod) :
        request.AsksFor world project other ↔ other = method := by
      rw [finds, Option.map_some, Option.some.injEq, eq_comm]
    exact (checks_withinLimits isFor paysIn asksFor).bind fun outcome _ =>
      .free (gives_done (some (ChosenMethod.mk method system outcome))) trivial

/-! ### The merchant's own id and addresses -/

theorem clientId?_eq_some_iff {clientId : String} :
    request.clientId? = some clientId ↔ request.orderId = some clientId ∧ clientId ≠ "" := by
  simp [clientId?, Option.filter_eq_some_iff]

theorem checks_requireNewClientId (isFor : request.IsFor world project) :
    Checks world (request.Breaks world settings) [.clientIdLooked, .clientIdNew]
      (request.requireNewClientId project) fun _ => True := by
  have named_iff (clientId : String) (rest : Prop) :
      request.orderId = some clientId ∧ clientId ≠ "" ∧ rest ↔
        request.clientId? = some clientId ∧ rest := by
    rw [← and_assoc, clientId?_eq_some_iff]
  unfold requireNewClientId
  split
  · rename_i unnamed
    refine .passes (gives_done ()) trivial ?_
    simp only [Unbroken, List.forall_mem_cons, Breaks, named_iff, unnamed]
    simp
  · rename_i clientId named
    refine .step (.attempt (gives_fetchByClientId _ _) fun stop => ?_) fun known fetched => ?_
    · simp only [Breaks, named_iff, named]
      simp [isFor.iff]
    · refine .mono (.require fun stop => ?_) fun _ _ => trivial
      simp only [Breaks, named_iff, named]
      cases known <;> simp [isFor.iff, fetched]

/-- A store in memory can always tell whether an id is in use. -/
theorem not_breaks_clientIdLooked {world : World MemoryStore} {stop : Stop} :
    ¬request.Breaks world settings .clientIdLooked stop := by
  rintro ⟨project, clientId, error, -, -, -, unanswered, -⟩
  nomatch unanswered

/-- **An id is in use where an order of the project in memory has it.** -/
theorem breaks_clientIdNew_iff {world : World MemoryStore} {stop : Stop} :
    request.Breaks world settings .clientIdNew stop ↔
      ∃ project clientId order, request.IsFor world project ∧ request.orderId = some clientId
        ∧ clientId ≠ "" ∧ (order ∈ world.store.orders ∧ order.project.id = project.id
          ∧ order.projectOrderId = some clientId) ∧ stop = .refused .duplicateClientId := by
  have fetched (projectId clientId : String) :
      (∃ order, OrderStore.fetchByClientId world.store projectId clientId = .ok (some order)) ↔
        ∃ order ∈ world.store.orders, order.project.id = projectId
          ∧ order.projectOrderId = some clientId := by
    simp only [OrderStore.fetchByClientId, Except.ok.injEq, ← Option.isSome_iff_exists,
      MemoryStore.fetchByClientId, List.find?_isSome, Bool.and_eq_true, beq_iff_eq]
  constructor
  · rintro ⟨project, clientId, order, isFor, given, named, found, rfl⟩
    obtain ⟨stored, known⟩ := (fetched _ _).mp ⟨order, found⟩
    exact ⟨project, clientId, stored, isFor, given, named, known, rfl⟩
  · rintro ⟨project, clientId, order, isFor, given, named, known, rfl⟩
    obtain ⟨stored, found⟩ := (fetched _ _).mpr ⟨order, known⟩
    exact ⟨project, clientId, stored, isFor, given, named, found, rfl⟩

/-- Addresses may be given where a project allows them, and may be left out anywhere. -/
theorem allowed_eq_false_iff (allows : Bool) (first second : Option String) :
    (allows || (first.isNone && second.isNone)) = false ↔
      ¬allows ∧ (first ≠ none ∨ second ≠ none) := by
  cases allows <;> cases first <;> cases second <;> simp

theorem checks_notifyUrls (isFor : request.IsFor world project) :
    Checks world (request.Breaks world settings) [.notifyUrls]
      (.require (request.notifyUrlsAllowed project) .notifyUrlsNotAllowed) fun _ => True := by
  refine .mono (.require fun stop => ?_) fun _ _ => trivial
  rw [notifyUrlsAllowed, allowed_eq_false_iff, and_assoc]
  simp only [Breaks, isFor.iff, exists_eq_left]

theorem checks_redirectUrls (isFor : request.IsFor world project) :
    Checks world (request.Breaks world settings) [.redirectUrls]
      (.require (request.redirectUrlsAllowed project) .redirectUrlsNotAllowed) fun _ => True := by
  refine .mono (.require fun stop => ?_) fun _ _ => trivial
  rw [redirectUrlsAllowed, allowed_eq_false_iff, and_assoc]
  simp only [Breaks, isFor.iff, exists_eq_left]

/-! ### The place and the package -/

theorem checks_findPlace :
    Checks world (request.Breaks world settings) [.place] request.findPlace
      (request.IsFrom world) := by
  unfold findPlace
  split
  · rename_i unknown
    have nowhere : request.IsFrom world {} := by
      unfold IsFrom
      rw [unknown]
    exact .cons_unbroken (by simp [Breaks, nowhere.iff]) (.free (gives_done ({} : Location)) nowhere)
  · rename_i address given
    refine .look (gives_locate address) ?_
    cases located : world.desk.places.locate address with
    | error error =>
      refine .broken (gives_refuse .unknownRegion) fun stop => ?_
      simp [Breaks, IsFrom, given, located]
    | ok place =>
      have isFrom : request.IsFrom world place := by
        unfold IsFrom
        rw [given]
        exact located
      exact .cons_unbroken (by simp [Breaks, isFrom.iff]) (.free (gives_done place) isFrom)

theorem isOnOffer_iff {package : FixedPackage} {amount : Amount} {code : String} :
    Project.isOnOffer amount code package ↔ package.IsPaidBy amount code := by
  unfold Project.isOnOffer
  rw [Bool.and_eq_true, Bool.and_eq_true, Amount.sameValue_iff_minor]
  exact ⟨fun ⟨⟨active, price⟩, currency⟩ => ⟨active, price, currency⟩,
    fun paid => ⟨⟨paid.active, paid.price⟩, paid.currency⟩⟩

/-- The packages of a region are those that are found for it, if any. -/
theorem packages_cases (project : Project) (region : String) :
    ((project.packages.get? region).filter (!·.isEmpty) = none
        ∧ ∀ package, ¬project.Sells region package) ∨
      ∃ packages, (project.packages.get? region).filter (!·.isEmpty) = some packages
        ∧ packages ≠ [] ∧ ∀ package, project.Sells region package ↔ package ∈ packages := by
  unfold Project.Sells
  rcases project.packages.get? region with - | - | ⟨package, packages⟩
  · simp
  · simp
  · exact .inr ⟨package :: packages, by simp⟩

theorem checks_selectPackage {region : String} (isFor : request.IsFor world project)
    (paysIn : request.PaysIn world project currency)
    (wants : ∀ other, request.Wants world project other ↔ other = region) :
    Checks world (request.Breaks world settings) [.regionSold, .packageSold]
      (.orRefused (project.selectPackage region request.amount currency.code)) fun _ => True := by
  unfold Project.selectPackage
  rcases packages_cases project region with ⟨found, nothing⟩ | ⟨packages, found, nonempty, sells⟩
  · rw [found]
    exact .broken (gives_refuse .noPackagesInRegion) fun stop => by
      simp [Breaks, isFor.iff, wants, nothing]
  · rw [found]
    dsimp only
    refine .cons_unbroken ?_ ?_
    · have sold : ∃ package, package ∈ packages := List.exists_mem_of_ne_nil packages nonempty
      simp [Breaks, isFor.iff, wants, sells, sold]
    cases offered : packages.reverse.find? (Project.isOnOffer request.amount currency.code) with
    | none =>
      refine .broken (gives_refuse .packageNotFound) fun stop => ?_
      have unpaid (package : FixedPackage) (member : package ∈ packages) :
          ¬package.IsPaidBy request.amount currency.code := fun paid =>
        List.find?_eq_none.mp offered package (List.mem_reverse.mpr member) (isOnOffer_iff.mpr paid)
      simpa [Breaks, isFor.iff, paysIn.iff, wants, sells] using fun _ => unpaid
    | some package =>
      have member := List.mem_reverse.mp (List.mem_of_find?_eq_some offered)
      have paid := isOnOffer_iff.mp (List.find?_some offered)
      refine .cons_unbroken ?_ (.free (gives_done { package.snapshot with region }) trivial)
      simpa [Breaks, isFor.iff, paysIn.iff, wants, sells] using ⟨package, member, paid⟩

theorem checks_findPackage {place : Location} (isFor : request.IsFor world project)
    (paysIn : request.PaysIn world project currency) (isFrom : request.IsFrom world place) :
    Checks world (request.Breaks world settings) [.regionSold, .packageSold]
      (request.findPackage project place currency.code) fun _ => True := by
  have sells_iff : project.sellsPackages ↔ ∃ packages ∈ project.packages.values, packages ≠ [] := by
    simp [Project.sellsPackages]
  unfold findPackage
  split
  · rename_i sells
    have wants (region : String) : request.Wants world project region ↔
        region = (request.region.or place.country).getD "" := by
      simp [Wants, sells_iff.mp sells, isFrom.iff]
    exact (checks_selectPackage isFor paysIn wants).bind fun package _ =>
      .free (gives_done (some package)) trivial
  · rename_i nothing
    rw [sells_iff] at nothing
    exact .passes (gives_done none) trivial (by simp [Unbroken, Breaks, isFor.iff, Wants, nothing])

end OrderRequest

/-! ### Parameters -/

namespace Params

variable {params after : Params} {name : String} {json : Json} {value : Param}

/-- A new parameter is taken while there is room. -/
theorem set_eq_of_fresh (fresh : name ∉ params.keys) :
    params.set name value =
      if capacity ≤ params.size then .error .tooMany else .ok (params.insert name value) := by
  have absent : params.contains name = false :=
    Bool.eq_false_iff.mpr fun known => fresh (Dict.contains_iff_mem_keys.mp known)
  unfold set
  simp [absent]

theorem toInt64?_of_limit_le {number : Int} (large : Decimal.limit ≤ number.natAbs) :
    Text.toInt64? number = none := by
  have wide : Nat.pow 2 63 < Decimal.limit := by decide
  have outside : Text.fitsInt64 number = false := by
    rw [Text.fitsInt64, Bool.and_eq_false_iff, decide_eq_false_iff_not, decide_eq_false_iff_not]
    omega
  rw [Text.toInt64?, outside]
  rfl

/-- A value that is not null either cannot be stored or is set as some parameter. -/
theorem setJson_cases (params : Params) (name : String) (notNull : json.isNull = false) :
    (∃ error, params.setJson name json = .error error
        ∧ ∀ other, Unstorable name json other ↔ other = error) ∨
      ∃ value, params.setJson name json = params.set name value
        ∧ ∀ error, ¬Unstorable name json error := by
  cases json with
  | null => nomatch notNull
  | bool flag => exact .inr ⟨.flag flag, rfl, nofun⟩
  | text text => exact .inr ⟨.text text, rfl, nofun⟩
  | list items =>
    exact .inl ⟨.notPrimitive name, rfl, fun other =>
      ⟨fun | .list _ => rfl, fun same => same ▸ .list items⟩⟩
  | object fields =>
    exact .inl ⟨.notPrimitive name, rfl, fun other =>
      ⟨fun | .object _ => rfl, fun same => same ▸ .object fields⟩⟩
  | int number =>
    simp only [setJson]
    by_cases large : Decimal.limit ≤ number.natAbs
    · rw [toInt64?_of_limit_le large, Decimal.ofInt?, Decimal.ofParts?, dif_neg (by omega)]
      exact .inl ⟨.outOfRange name, rfl, fun other =>
        ⟨fun | .int _ => rfl, fun same => same ▸ .int large⟩⟩
    · have storable (error : ParamError) : ¬Unstorable name (.int number) error := fun
        | .int tooLarge => large tooLarge
      right
      cases Text.toInt64? number with
      | some short => exact ⟨.whole short, rfl, storable⟩
      | none =>
        rw [Decimal.ofInt?, Decimal.ofParts?, dif_pos ⟨by omega, Nat.zero_le _⟩]
        exact ⟨.number _, rfl, storable⟩
  | float number =>
    simp only [setJson]
    cases read : Decimal.read number.writeShort with
    | ok decimal =>
      exact .inr ⟨.number decimal, rfl, fun error => fun
        | .float unread => nomatch read.symm.trans unread⟩
    | error cause =>
      exact .inl ⟨.outOfRange name, rfl, fun other =>
        ⟨fun | .float _ => rfl, fun same => same ▸ .float read⟩⟩

/-- **What keeps a value from being set**: it cannot be stored, or there is no room for it. -/
theorem setJson_eq_error_iff (fresh : name ∉ params.keys) (notNull : json.isNull = false)
    (error : ParamError) : params.setJson name json = .error error ↔
      Unstorable name json error ∨
        (∀ other, ¬Unstorable name json other) ∧ capacity ≤ params.size ∧ error = .tooMany := by
  rcases setJson_cases params name notNull with ⟨cause, failed, unstorable⟩ | ⟨value, isSet, storable⟩
  · simp [failed, unstorable, eq_comm]
  · rw [isSet, set_eq_of_fresh fresh]
    by_cases full : capacity ≤ params.size
    · simp [storable, full, eq_comm]
    · simp [storable, full]

theorem exists_insert_of_setJson (fresh : name ∉ params.keys) (notNull : json.isNull = false)
    (taken : params.setJson name json = .ok after) : ∃ value, after = params.insert name value := by
  rcases setJson_cases params name notNull with ⟨cause, failed, -⟩ | ⟨value, isSet, -⟩
  · rw [failed] at taken
    cases taken
  · rw [isSet, set_eq_of_fresh fresh] at taken
    by_cases full : capacity ≤ params.size
    · rw [if_pos full] at taken
      cases taken
    · rw [if_neg full, Except.ok.injEq] at taken
      exact ⟨value, taken.symm⟩

end Params

namespace OrderRequest

theorem checks_param {params : Params} {name : String} {json : Json} (fresh : name ∉ params.keys)
    (notNull : json.isNull = false) :
    Checks world (request.Breaks world settings) [.param params.size (name, json)]
      (.orRefused ((params.setJson name json).mapError .badParameter)) fun after =>
        params.setJson name json = .ok after :=
  .attempt (gives_orRefused .badParameter _) fun stop => by
    simp only [Breaks, Params.setJson_eq_error_iff fresh notNull, Function.comp_apply]

theorem orRefused_bind {ε α β : Type} (refusal : ε → Refusal) (result : Except ε α)
    (next : α → Except ε β) :
    Flow.orRefused ((result >>= next).mapError refusal)
      = Flow.orRefused (result.mapError refusal) >>= fun value =>
        .orRefused ((next value).mapError refusal) := by
  cases result <;> rfl

/-- Entries with new names become parameters one after another. -/
theorem checks_entries (entries : List (String × Json)) (params : Params)
    (distinct : (entries.map (·.1)).Nodup)
    (fresh : ∀ name ∈ entries.map (·.1), name ∉ params.keys) :
    Checks world (request.Breaks world settings)
      ((entries.filter (!·.2.isNull)).mapIdx fun index => .param (params.size + index))
      (.orRefused ((entries.foldlM (fun (params : Params) entry => params.setJson entry.1 entry.2)
        params).mapError .badParameter)) fun _ => True := by
  induction entries generalizing params with
  | nil => exact .free (gives_done params) trivial
  | cons entry rest hypothesis =>
    obtain ⟨name, json⟩ := entry
    rw [List.map_cons, List.nodup_cons] at distinct
    rw [List.map_cons, List.forall_mem_cons] at fresh
    rw [List.foldlM_cons, orRefused_bind]
    cases isNull : json.isNull with
    | true =>
      have same : json = .null := by cases json <;> first | rfl | nomatch isNull
      rw [same]
      exact .look (gives_done params) (hypothesis params distinct.2 fresh.2)
    | false =>
      rw [List.filter_cons_of_pos (by simp [isNull]), List.mapIdx_cons]
      refine .step (checks_param fresh.1 isNull) fun after taken => ?_
      obtain ⟨value, rfl⟩ := Params.exists_insert_of_setJson fresh.1 isNull taken
      have more : (params.insert name value).size = params.size + 1 :=
        Dict.size_insert_of_fresh fresh.1 value
      have checks := hypothesis (params.insert name value) distinct.2 fun other member => by
        rw [Dict.mem_keys_insert, not_or]
        exact ⟨fun same => distinct.1 (same ▸ member), fresh.2 other member⟩
      simpa only [more, Nat.add_assoc, Nat.add_comm 1] using checks

theorem checks_passthrough :
    Checks world (request.Breaks world settings) (request.paramEntries.mapIdx Rule.param)
      (.orRefused (request.passthrough.mapError .badParameter)) fun _ => True := by
  have distinct : ((request.other.entries.filter (!isReserved ·.1)).map (·.1)).Nodup :=
    request.other.nodup_keys.sublist (List.filter_sublist.map _)
  have checks : Checks world (request.Breaks world settings) _ _ _ :=
    checks_entries _ ∅ distinct fun _ _ => List.not_mem_nil
  have none_yet : (∅ : Params).size = 0 := rfl
  simp only [none_yet, Nat.zero_add] at checks
  exact checks

/-! ### All rules -/

/-- **The steps together** check all rules in their order. -/
theorem checks_check : Checks world (request.Breaks world settings) request.rules
    (request.check settings) fun _ => True := by
  refine checks_forms.bind fun _ _ => ?_
  refine checks_findProject.bind fun project isFor => ?_
  refine .look (gives_currency _) ((checks_currency isFor).bind fun currency paysIn => ?_)
  refine (checks_signature isFor).bind fun _ _ => ?_
  refine (checks_findMethod isFor).bind fun usable finds => ?_
  refine (checks_requireLimits isFor paysIn).bind fun _ _ => ?_
  refine (checks_chooseMethod isFor paysIn finds).bind fun method _ => ?_
  refine (checks_requireNewClientId isFor).bind fun _ _ => ?_
  refine (checks_notifyUrls isFor).bind fun _ _ => ?_
  refine (checks_redirectUrls isFor).bind fun _ _ => ?_
  refine checks_findPlace.bind fun place isFrom => ?_
  refine (checks_findPackage isFor paysIn isFrom).bind fun package _ => ?_
  rw [← List.append_nil (request.paramEntries.mapIdx Rule.param)]
  exact checks_passthrough.bind fun params _ => .free (gives_done _) trivial

/-- **A request is taken exactly when it breaks no rule**, and else it is refused for the first rule
that it breaks; either way the world stays as it is. -/
theorem check_decides (world : World σ) (settings : Settings) (request : OrderRequest) :
    ∃ result,
      (∀ now freshId, (World.run now freshId (request.check settings)).run world = (result, world)) ∧
        ((∃ intake, result = .ok intake) ↔
          Unbroken (request.Breaks world settings) request.rules) ∧
        ∀ stop, result = .error stop ↔
          FirstBroken (request.Breaks world settings) request.rules stop :=
  checks_check.decides

/-- Of two rules that are broken, the form of a field comes before the project. -/
example : ((World.run .epoch "" (check {} {
      projectId := "gone", amount := .zero, account := "", currency := some "EURO" })).run
        { store := MemoryStore.empty }).1
      = .error (.refused (.malformedField "PP_CURRENCY")) := rfl

end OrderRequest

end Paydesk
