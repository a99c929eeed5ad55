/-
**The case of letters in a request.**

A request names a currency and a region by codes, which may be written in capitals or in small
letters. Everything that looks at the codes turns them to capitals or compares them letter by
letter, but for one: the packages of a region are looked up by the region as it is written. So two
requests that differ in nothing but the case of their codes come to the same, as long as no package
is looked up; and where one is, they are told apart by what the project lists under either spelling.

* `OrderRequest.SameButCase`, `Order.SameButCase`: requests, and orders, that are the same but for
  case;
* `place_of_currency`: the case of the currency's code changes no flow;
* `check_agrees`, `draft_agrees`: **the steps from two spellings of a region** agree, as far as the
  packages do;
* `place_alike`: **what two requests come to**;
* `smallRegion_buys_nothing`: a project that sells packages under one spelling only.
-/

import Paydesk.Flow.NewOrder
import Paydesk.Proofs.Desk.Pairs
import Paydesk.Proofs.Flow.Finding
import Paydesk.Proofs.Request.Rules
import Paydesk.Proofs.Store.Changes
import Paydesk.Proofs.Store.Refinement
import Paydesk.Proofs.Text.Ascii

namespace Paydesk

open World

/-! ### Codes -/

/-- Two codes are the same but for the case of their letters, or both are missing. -/
def SameCode : Option String → Option String → Prop :=
  Option.Rel fun code other => Text.sameLetters code other

namespace SameCode

variable {code other : Option String}

theorem refl (code : Option String) : SameCode code code := by
  cases code with
  | none => exact .none
  | some text => exact .some (Text.sameLetters_iff.mpr rfl)

/-- Codes that are the same have the same form. -/
theorem all_isLetterCode (same : SameCode code other) (length : Nat) :
    other.all (isLetterCode length) = code.all (isLetterCode length) := by
  cases same with
  | none => rfl
  | some letters =>
    rw [Option.all_some, Option.all_some, ← Text.isLetterCode_upperCase,
      ← Text.sameLetters_iff.mp letters, Text.isLetterCode_upperCase]

theorem upperCase_getD (same : SameCode code other) :
    Text.upperCase (other.getD "") = Text.upperCase (code.getD "") := by
  cases same with
  | none => rfl
  | some letters => exact (Text.sameLetters_iff.mp letters).symm

/-- A code behind another one. -/
theorem or (same : SameCode code other) (before : Option String) :
    SameCode (before.or code) (before.or other) := by
  cases before with
  | none => exact same
  | some text => exact .refl (some text)

end SameCode

/-! ### Requests and orders -/

/-- A request is another one with codes that are the same but for case. -/
inductive OrderRequest.SameButCase (request : OrderRequest) : OrderRequest → Prop
  | codes {currency region : Option String} (currency_same : SameCode request.currency currency)
      (region_same : SameCode request.region region) :
      SameButCase request { request with currency, region }

/-- A package is another one in a region that is the same but for case. -/
inductive PackageSnapshot.SameButCase (package : PackageSnapshot) : PackageSnapshot → Prop
  | region {region : String} (same : Text.sameLetters package.region region) :
      SameButCase package { package with region }

/-- An order is another one with a payer's country that is the same but for case, and with a package
that is related to the other's. -/
inductive Order.SameButCase (packages : PackageSnapshot → PackageSnapshot → Prop) (order : Order) :
    Order → Prop
  | codes {country : Option String} {package : Option PackageSnapshot}
      (country_same : SameCode order.payer.country country)
      (package_same : Option.Rel packages order.package package) :
      SameButCase packages order { order with payer := { order.payer with country }, package }

/-- A package is another one, sold in another region. -/
inductive FixedPackage.SameButRegion (package : FixedPackage) : FixedPackage → Prop
  | region {region : String} : SameButRegion package { package with region }

/-- A project lists the same packages under two spellings of a region, or sells none at all. -/
def Project.ListsAlike (project : Project) (region other : Option String) : Prop :=
  project.sellsPackages → ∀ one ∈ region, ∀ two ∈ other,
    Option.Rel (List.Forall₂ FixedPackage.SameButRegion) (project.packages.get? one)
      (project.packages.get? two)

namespace OrderRequest

variable {request : OrderRequest} {settings : Settings}

/-! ### The currency -/

theorem malformedField?_of_currency {currency : Option String}
    (same : SameCode request.currency currency) :
    { request with currency }.malformedField? = request.malformedField? := by
  have formed : currency.all isCurrencyCode = request.currency.all isCurrencyCode :=
    same.all_isLetterCode 3
  unfold malformedField? formedFields
  rw [formed]

theorem currencyCode_of_currency {currency : Option String}
    (same : SameCode request.currency currency) (project : Project) :
    { request with currency }.currencyCode project = request.currencyCode project := by
  unfold currencyCode
  dsimp only
  generalize request.currency = code at same
  cases same with
  | none => rfl
  | some letters =>
    dsimp only
    rw [Text.upperCase_trimBlank, Text.upperCase_trimBlank, Text.sameLetters_iff.mp letters]

/-- **The case of the currency's code** changes nothing about a request's flow. -/
theorem place_of_currency {currency : Option String} (same : SameCode request.currency currency) :
    { request with currency }.place settings = request.place settings := by
  have checked : { request with currency }.check settings = request.check settings := by
    unfold check
    simp only [malformedField?_of_currency same, currencyCode_of_currency same]
    rfl
  have drafted : { request with currency }.draft settings = request.draft settings := by
    unfold draft
    rw [checked]
    rfl
  unfold place
  rw [drafted]

/-! ### The region -/

theorem malformedField?_of_region {region : Option String} (same : SameCode request.region region) :
    { request with region }.malformedField? = request.malformedField? := by
  have formed : region.all isRegionCode = request.region.all isRegionCode :=
    same.all_isLetterCode 2
  unfold malformedField? formedFields
  rw [formed]

variable {σ : Type} [OrderStore σ] {world : World σ} {now : Instant} {freshId : String}
  {excused : Stop → Prop} {packages : PackageSnapshot → PackageSnapshot → Prop}
  {region : Option String}

/-- The project of a request is the one that the catalog has. -/
theorem findProject_yields_isFor :
    request.findProject.Yields (world.Says now freshId) (request.IsFor world) := by
  refine .ask rfl fun answer said => ?_
  obtain rfl := said
  change Flow.Yields _ _
    (Flow.orRefuse .projectNotFound (world.desk.catalog.project? request.projectId) >>= _)
  cases isFor : world.desk.catalog.project? request.projectId with
  | none => exact .stop _
  | some project =>
    show Flow.Yields _ _ (.require project.isActive .projectInactive >>= fun _ => .done project)
    exact .bind (Flow.consults_require _ _).yields fun _ _ => .done isFor

/-- The packages that the project of a request selects for two spellings of a region agree. -/
def PackagesAgree (world : World σ) (now : Instant) (freshId : String) (excused : Stop → Prop)
    (packages : PackageSnapshot → PackageSnapshot → Prop) (request : OrderRequest)
    (region : Option String) : Prop :=
  ∀ (project : Project) (place : Location) (code : String), request.IsFor world project →
    project.sellsPackages → world.Agree now freshId excused packages
      (.orRefused
        (project.selectPackage ((request.region.or place.country).getD "") request.amount code))
      (.orRefused (project.selectPackage ((region.or place.country).getD "") request.amount code))

theorem findPackage_agrees {project : Project} {place : Location} {code : String}
    (sold : PackagesAgree world now freshId excused packages request region)
    (isFor : request.IsFor world project) :
    world.Agree now freshId excused (Option.Rel packages) (request.findPackage project place code)
      ({ request with region }.findPackage project place code) := by
  unfold findPackage
  by_cases sells : project.sellsPackages
  · rw [if_pos sells, if_pos sells]
    exact (sold project place code isFor sells).bind fun package other same => .done (.some same)
  · rw [if_neg sells, if_neg sells]
    exact .done .none

/-- **All rules** agree if the packages do. -/
theorem check_agrees (same : SameCode request.region region)
    (sold : PackagesAgree world now freshId excused packages request region) :
    world.Agree now freshId excused
      (fun intake other => ∃ package, Option.Rel packages intake.package package
        ∧ other = { intake with package })
      (request.check settings) ({ request with region }.check settings) := by
  unfold check
  rw [malformedField?_of_region same]
  refine .share (Flow.consults_refuseIf _).yields fun _ _ => ?_
  refine .share findProject_yields_isFor fun project isFor => ?_
  refine .share (Flow.consults_currency _).yields fun found _ => ?_
  refine .share (Flow.consults_orRefuse found).yields fun currency _ => ?_
  refine .share (Flow.consults_require _ _).yields fun _ _ => ?_
  refine .share (findMethod_yields project) fun usable _ => ?_
  refine .share (requireLimits_yields _ _ _) fun _ _ => ?_
  refine .share (chooseMethod_yields _ usable) fun method _ => ?_
  refine .share (requireNewClientId_yields project) fun _ _ => ?_
  refine .share (Flow.consults_require _ _).yields fun _ _ => ?_
  refine .share (Flow.consults_require _ _).yields fun _ _ => ?_
  refine .share findPlace_yields fun place _ => ?_
  refine .bind (findPackage_agrees sold isFor) fun package other related => ?_
  refine .share (Flow.consults_orRefused _).yields fun params _ => ?_
  exact .done ⟨other, related, rfl⟩

end OrderRequest

/-! ### Prices -/

/-- The tax is the same wherever the country's code is the same but for case. -/
theorem VatTable.vat_congr {country other : String}
    (same : Text.upperCase other = Text.upperCase country) (table : VatTable)
    (subdivision : Option String) (amount : Amount) :
    table.vat other subdivision amount = table.vat country subdivision amount := by
  unfold vat percent? regional?
  simp only [same]

section Prices

variable {σ : Type} [OrderStore σ] {world : World σ} {now : Instant} {freshId : String}
  {excused : Stop → Prop} {packages : PackageSnapshot → PackageSnapshot → Prop}
  {settings : Settings} {order other : Order}

namespace Order

theorem endOf_vatOn (same : order.SameButCase packages other) (amount : Amount) :
    world.endOf now freshId (other.vatOn amount) = world.endOf now freshId (order.vatOn amount) := by
  cases same with
  | @codes country package country_same package_same =>
    have taxed : world.desk.vat.vat (country.getD "") order.payer.subdivision amount
        = world.desk.vat.vat (order.payer.country.getD "") order.payer.subdivision amount :=
      VatTable.vat_congr country_same.upperCase_getD _ _ _
    unfold vatOn
    dsimp only
    by_cases enabled : order.project.merchant.isVatEnabled
    · rw [if_pos enabled, if_pos enabled]
      change world.endOf now freshId (.orFail .vat (world.desk.vat.vat _ _ _)) = _
      rw [taxed]
      rfl
    · rw [if_neg enabled, if_neg enabled]

/-- **The fees of an order** do not depend on the case of the payer's country. -/
theorem endOf_allocate (same : order.SameButCase packages other) :
    world.endOf now freshId (other.allocate settings)
      = world.endOf now freshId (order.allocate settings) := by
  have method : other.requireMethod = order.requireMethod := by
    cases same
    rfl
  have base : other.methodOutcome = order.methodOutcome := by
    cases same
    rfl
  unfold allocate
  rw [endOf_bind, endOf_bind, method]
  refine congrArg (world.endOf now freshId order.requireMethod >>= ·) (funext ?_)
  rintro ⟨method, after⟩
  dsimp only
  rw [endOf_bind, endOf_bind, base, endOf_vatOn same]
  cases same
  rfl

theorem priced_agrees (same : order.SameButCase packages other) :
    world.Agree now freshId excused (SameButCase packages) (order.priced settings)
      (other.priced settings) := by
  refine (Agree.of_endOf_eq order.consults_allocate.yields (endOf_allocate same)).bind ?_
  rintro _ allocation ⟨-, rfl⟩
  refine .done ?_
  cases same with
  | codes country_same package_same => exact .codes country_same package_same

end Order

theorem Intake.order_agrees {intake : Intake} {request : OrderRequest} {region : Option String}
    {package : Option PackageSnapshot} (same : SameCode request.region region)
    (package_same : Option.Rel packages intake.package package) :
    world.Agree now freshId excused (Order.SameButCase packages) (intake.order settings request)
      ({ intake with package }.order settings { request with region }) := by
  refine .share (Flow.consults_convert _ _ _).yields fun inMerchant _ => ?_
  refine .share (Flow.consults_convert _ _ _).yields fun outcome _ => ?_
  refine .share (.ask rfl fun _ _ => .done trivial) fun id _ => ?_
  refine .share (.ask rfl fun _ _ => .done trivial) fun time _ => ?_
  have built : (intake.build request id time inMerchant outcome).SameButCase packages
      ({ intake with package }.build { request with region } id time inMerchant outcome) :=
    .codes (same.or intake.place.country) package_same
  dsimp only
  by_cases chosen : intake.method.isSome
  · rw [if_pos chosen, if_pos chosen]
    exact Order.priced_agrees built
  · rw [if_neg chosen, if_neg chosen]
    exact .done built

/-- **The orders of two spellings of a region** agree if the packages do. -/
theorem OrderRequest.draft_agrees {request : OrderRequest} {region : Option String}
    (same : SameCode request.region region)
    (sold : PackagesAgree world now freshId excused packages request region) :
    world.Agree now freshId excused (Order.SameButCase packages) (request.draft settings)
      ({ request with region }.draft settings) := by
  refine (check_agrees same sold).bind ?_
  rintro intake _ ⟨package, package_same, rfl⟩
  exact Intake.order_agrees same package_same

end Prices

/-! ### Packages -/

section Packages

variable {σ : Type} [OrderStore σ] {world : World σ} {now : Instant} {freshId : String}
  {request : OrderRequest} {region : Option String}

/-- A request is refused for its package. -/
def Stop.IsForPackage (stop : Stop) : Prop :=
  stop = .refused .noPackagesInRegion ∨ stop = .refused .packageNotFound

theorem Project.isForPackage_of_selectPackage {project : Project} {region : String} {price : Amount}
    {code : String} {refusal : Refusal}
    (refused : project.selectPackage region price code = .error refusal) :
    (Stop.refused refusal).IsForPackage := by
  unfold selectPackage at refused
  split at refused
  · cases refused
    exact Or.inl rfl
  · split at refused
    · cases refused
    · cases refused
      exact Or.inr rfl

/-- Whatever a project lists, packages agree up to refusals. -/
theorem OrderRequest.packagesAgree_or_refused :
    PackagesAgree world now freshId Stop.IsForPackage (fun _ _ => True) request region := by
  intro project place code _ _
  cases selected : project.selectPackage ((request.region.or place.country).getD "") request.amount
      code with
  | error refusal => exact .first (Project.isForPackage_of_selectPackage selected)
  | ok package =>
    cases selected_other : project.selectPackage ((region.or place.country).getD "") request.amount
        code with
    | error refusal => exact .second (Project.isForPackage_of_selectPackage selected_other)
    | ok other => exact .done trivial

/-- Whether a package is on offer does not depend on its region. -/
theorem FixedPackage.SameButRegion.isOnOffer {package other : FixedPackage}
    (same : package.SameButRegion other) (price : Amount) (code : String) :
    Project.isOnOffer price code other = Project.isOnOffer price code package := by
  cases same
  rfl

/-- In two lists of the same packages the same one is found on offer. -/
theorem Project.find?_isOnOffer {packages others : List FixedPackage}
    (same : List.Forall₂ FixedPackage.SameButRegion packages others) (price : Amount)
    (code : String) :
    Option.Rel FixedPackage.SameButRegion (packages.find? (isOnOffer price code))
      (others.find? (isOnOffer price code)) := by
  induction same with
  | nil => exact .none
  | @cons package other rest rest_other one _ hypothesis =>
    rw [List.find?_cons, List.find?_cons, one.isOnOffer]
    cases isOnOffer price code package with
    | true => exact .some one
    | false => exact hypothesis

/-- Where the same packages are listed, the same one is selected: the last of each list that is on
offer. -/
theorem Project.selectPackage_of_listed {project : Project} {region other : String}
    (listed : Option.Rel (List.Forall₂ FixedPackage.SameButRegion) (project.packages.get? region)
      (project.packages.get? other)) (price : Amount) (code : String) :
    (∃ refusal, project.selectPackage region price code = .error refusal
        ∧ project.selectPackage other price code = .error refusal) ∨
      ∃ package : PackageSnapshot,
        project.selectPackage region price code = .ok { package with region }
          ∧ project.selectPackage other price code = .ok { package with region := other } := by
  unfold selectPackage
  generalize project.packages.get? region = packages at listed ⊢
  generalize project.packages.get? other = others at listed ⊢
  cases listed with
  | none => exact Or.inl ⟨_, rfl, rfl⟩
  | @some packages others same =>
    cases same with
    | nil => exact Or.inl ⟨_, rfl, rfl⟩
    | @cons package twin rest rest_twin one later =>
      simp only [Option.filter_some, List.isEmpty_cons, Bool.not_false, if_true]
      have found := find?_isOnOffer (List.forall₂_reverse_iff.mpr (.cons one later)) price code
      generalize (package :: rest).reverse.find? (isOnOffer price code) = selected at found ⊢
      generalize (twin :: rest_twin).reverse.find? (isOnOffer price code) = selected_twin at found ⊢
      cases found with
      | none => exact Or.inl ⟨_, rfl, rfl⟩
      | @some package twin one =>
        cases one
        exact Or.inr ⟨package.snapshot, rfl, rfl⟩

/-- Packages agree where a project lists the same under both spellings. -/
theorem OrderRequest.packagesAgree_of_listsAlike (same : SameCode request.region region)
    (lists : ∀ project, request.IsFor world project → project.ListsAlike request.region region) :
    PackagesAgree world now freshId (fun _ => False) PackageSnapshot.SameButCase request region := by
  intro project place code isFor sells
  have listed := lists project isFor sells
  generalize request.region = written at same listed ⊢
  cases same with
  | none =>
    cases project.selectPackage ((none.or place.country).getD "") request.amount code with
    | error refusal => exact .stops _
    | ok package => exact .done (.region (Text.sameLetters_iff.mpr rfl))
  | some letters =>
    rw [Option.some_or, Option.some_or, Option.getD_some, Option.getD_some]
    rcases project.selectPackage_of_listed (listed _ rfl _ rfl) request.amount code with
      ⟨refusal, selected, selected_other⟩ | ⟨package, selected, selected_other⟩
    · rw [selected, selected_other]
      exact .stops _
    · rw [selected, selected_other]
      exact .done (.region letters)

end Packages

/-! ### What requests come to -/

/-- A store that tells two new orders of one id and one income apart by nothing. -/
class OrderStore.TakesAlike (σ : Type) [OrderStore σ] : Prop where
  insert_alike (store : σ) {order other : Order} (id : other.id = order.id)
    (income : other.projectIncome = order.projectIncome) :
    (∃ error, OrderStore.insert store order = .error error
        ∧ OrderStore.insert store other = .error error) ∨
      ∃ after afterOther, OrderStore.insert store order = .ok (order, after)
        ∧ OrderStore.insert store other = .ok (other, afterOther)

instance : OrderStore.TakesAlike MemoryStore where
  insert_alike store order other id income := by
    cases found : store.fetch order.id with
    | some known =>
      refine Or.inl ⟨.taken order.id, MemoryStore.insert_taken found, ?_⟩
      rw [← id] at found ⊢
      exact MemoryStore.insert_taken found
    | none =>
      obtain ⟨after, taken, -⟩ := MemoryStore.insert_absent found
      rw [← id] at found
      obtain ⟨afterOther, taken_other, -⟩ := MemoryStore.insert_absent found
      exact Or.inr ⟨after, afterOther, taken, taken_other⟩

/-- A store in tables takes no order whose income has too many minor units. -/
theorem TableStore.insert_outOfRange {store : TableStore} {order : Order}
    (isOpen : store.isClosed = false) (wide : order.projectIncome.toMinor? = none) :
    store.insert order
      = .error (.badDocument s!"Income amount {order.projectIncome.write} is out of range") := by
  unfold insert OrderRow.ofOrder
  rw [whenOpen_of_open isOpen, wide]
  rfl

instance : OrderStore.TakesAlike TableStore where
  insert_alike store order other id income := by
    cases isOpen : store.isClosed with
    | true => exact Or.inl ⟨_, if_pos isOpen, if_pos isOpen⟩
    | false =>
      cases fits : order.projectIncome.toMinor? with
      | none =>
        refine Or.inl ⟨_, TableStore.insert_outOfRange isOpen fits, ?_⟩
        rw [← income] at fits ⊢
        exact TableStore.insert_outOfRange isOpen fits
      | some minor =>
        obtain ⟨row, made⟩ : ∃ row, OrderRow.ofOrder order = .ok row :=
          OrderRow.ofOrder_eq_ok (by rw [fits]; rfl)
        obtain ⟨row_other, made_other⟩ : ∃ row, OrderRow.ofOrder other = .ok row :=
          OrderRow.ofOrder_eq_ok (by rw [income, fits]; rfl)
        cases found : store.row? order.id with
        | some known =>
          refine Or.inl ⟨_, TableStore.insert_taken isOpen made found, ?_⟩
          rw [← id] at found ⊢
          exact TableStore.insert_taken isOpen made_other found
        | none =>
          have taken := TableStore.insert_absent isOpen made found
          rw [← id] at found
          exact Or.inr ⟨_, _, taken, TableStore.insert_absent isOpen made_other found⟩

namespace OrderRequest

section Ends

variable {σ : Type} [OrderStore σ] {world : World σ} {now : Instant} {freshId : String}
  {excused : Stop → Prop} {packages : PackageSnapshot → PackageSnapshot → Prop}
  {settings : Settings} {request other : OrderRequest}

/-- An order is announced as it was stored. -/
theorem endOf_storing (order : Order) :
    world.endOf now freshId (do
        let stored ← .insert order
        let () ← Flow.ask (.announceCreated stored)
        return stored)
      = match OrderStore.insert world.store order with
        | .error error => .error (.ofStore error)
        | .ok (stored, store) =>
          .ok (stored, { world with store, hooks := world.hooks.announceCreated stored }) := by
  rw [endOf_bind, endOf_insert]
  cases OrderStore.insert world.store order with
  | error error => rfl
  | ok pair => rfl

/-- Requests with two spellings of a region end alike if the packages agree. -/
theorem place_alike_of_packagesAgree [OrderStore.TakesAlike σ] {region : Option String}
    (same : SameCode request.region region)
    (sold : PackagesAgree world now freshId excused packages request region) :
    Alike excused (fun ended twin => ended.1.SameButCase packages twin.1)
      (world.endOf now freshId (request.place settings))
      (world.endOf now freshId ({ request with region }.place settings)) := by
  unfold place
  rw [endOf_bind, endOf_bind]
  refine Alike.bind (draft_agrees same sold) ?_
  rintro ⟨order, after⟩ ⟨twin, after_twin⟩ ⟨related, kept, kept_twin⟩
  obtain rfl : world = after := kept.symm
  obtain rfl : world = after_twin := kept_twin.symm
  have id : twin.id = order.id := by
    cases related
    rfl
  have income : twin.projectIncome = order.projectIncome := by
    cases related
    rfl
  dsimp only
  rw [endOf_storing, endOf_storing]
  rcases OrderStore.TakesAlike.insert_alike world.store id income with
    ⟨error, taken, taken_twin⟩ | ⟨stored, stored_twin, taken, taken_twin⟩
  · rw [taken, taken_twin]
    exact .stops _
  · rw [taken, taken_twin]
    exact .values related

/-- **Two requests that are the same but for the case of their codes**, in one world. The case of
the currency's code changes nothing at all. The case of the region's code changes at most the case
of the payer's country, and what comes of the package: one of the two requests may be refused for
it, and two orders may have different ones. Where the project lists the same packages under both
spellings, both requests stop for the same reason, or become orders with the same package. -/
theorem place_alike [OrderStore.TakesAlike σ] (same : request.SameButCase other)
    (settings : Settings) (world : World σ) (now : Instant) (freshId : String) :
    (request.region = other.region → request.place settings = other.place settings)
      ∧ Alike Stop.IsForPackage (fun ended twin => ended.1.SameButCase (fun _ _ => True) twin.1)
          (world.endOf now freshId (request.place settings))
          (world.endOf now freshId (other.place settings))
      ∧ ((∀ project, request.IsFor world project →
            project.ListsAlike request.region other.region) →
          Alike (fun _ => False)
            (fun ended twin => ended.1.SameButCase PackageSnapshot.SameButCase twin.1)
            (world.endOf now freshId (request.place settings))
            (world.endOf now freshId (other.place settings))) := by
  cases same with
  | @codes currency region currency_same region_same =>
    have spelled : { request with currency, region }.place settings
        = { request with region }.place settings :=
      @place_of_currency { request with region } settings currency currency_same
    rw [spelled]
    refine ⟨?_, ?_, ?_⟩
    · intro one_region
      cases one_region
      rfl
    · exact place_alike_of_packagesAgree region_same packagesAgree_or_refused
    · intro lists
      exact place_alike_of_packagesAgree region_same (packagesAgree_of_listsAlike region_same lists)

end Ends

/-! ### A region in small letters -/

/-- A project that sells credits for a hundred roubles, under some spellings of regions. -/
def creditProject (regions : List String) : Project :=
  let credits (region : String) : FixedPackage :=
    ⟨"credits", "Credits", region, .ofInt 100, "RUB", true⟩
  { id := "game", merchant := ⟨"merchant", "Merchant", "RUB", false, false⟩, name := "Game"
    isActive := true, secretKey := ⟨""⟩, callbackProtocol := "default"
    callbackCurrency := "RUB", limitsCurrency := "RUB", least := .zero, most := .ofInt 1000
    allowsNotifyUrls := false, allowsRedirectUrls := false, urlSuccess := none, urlFail := none
    urlCheckAccount := none, urlProcessPayment := none, sendsNotifyEmail := false
    notifyEmails := [], methods := ∅
    packages := Dict.ofList (regions.map fun region => (region, [credits region])) }

/-- A desk with that project, and no orders yet. -/
def creditWorld (regions : List String) : World MemoryStore :=
  let catalog := Catalog.empty.addProject (creditProject regions)
  { desk := { catalog := catalog.addCurrency ⟨643, "RUB", "Rouble", true⟩ }, store := .empty }

/-- A request for credits. -/
def askCredits (currency region : String) : OrderRequest :=
  { projectId := "game", amount := .ofInt 100, account := "player", currency := some currency
    region := some region }

/-- Where a request for credits ends. -/
def buyCredits (regions : List String) (currency region : String) :
    Except Stop (Order × World MemoryStore) :=
  (creditWorld regions).endOf .epoch "order" ((askCredits currency region).place {})

/-- Two spellings of both codes, for a project that sells under either spelling of the region. -/
theorem place_alike_credits :
    (askCredits "RUB" "RU").SameButCase (askCredits "rub" "ru")
      ∧ (∀ project, (askCredits "RUB" "RU").IsFor (creditWorld ["RU", "ru"]) project →
          project.ListsAlike (some "RU") (some "ru"))
      ∧ (buyCredits ["RU", "ru"] "RUB" "RU").map (·.1.package.map (·.id)) = .ok (some "credits")
      ∧ Alike (fun _ => False)
          (fun ended twin => ended.1.SameButCase PackageSnapshot.SameButCase twin.1)
          (buyCredits ["RU", "ru"] "RUB" "RU") (buyCredits ["RU", "ru"] "rub" "ru") := by
  have same : (askCredits "RUB" "RU").SameButCase (askCredits "rub" "ru") :=
    .codes (.some rfl) (.some rfl)
  have lists : ∀ project, (askCredits "RUB" "RU").IsFor (creditWorld ["RU", "ru"]) project →
      project.ListsAlike (some "RU") (some "ru") := by
    intro project isFor
    have known : (askCredits "RUB" "RU").IsFor (creditWorld ["RU", "ru"])
        (creditProject ["RU", "ru"]) := rfl
    obtain rfl := (known.iff project).mp isFor
    rintro - one ⟨⟩ two ⟨⟩
    exact .some (.cons .region .nil)
  exact ⟨same, lists, rfl, (place_alike same {} _ .epoch "order").2.2 lists⟩

/-- **A region in small letters is a region's code**, but where a project sells packages under the
code in capitals, a request with the one buys a package and a request with the other is refused. -/
theorem smallRegion_buys_nothing :
    isRegionCode "ru" ∧ (askCredits "RUB" "RU").SameButCase (askCredits "RUB" "ru")
      ∧ (buyCredits ["RU"] "RUB" "RU").map (·.1.package.map (·.id)) = .ok (some "credits")
      ∧ (buyCredits ["RU"] "RUB" "ru").map (·.1.package.map (·.id))
          = .error (.refused .noPackagesInRegion) :=
  ⟨rfl, .codes (.some rfl) (.some rfl), rfl, rfl⟩

end OrderRequest

end Paydesk
