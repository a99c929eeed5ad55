/-
**Prices do not depend on the path.**

While the tables of the desk stay as they are, orders are placed and paid for in any order, as often
as payers like, with one method after another. Whatever comes of it, every stored order is fairly
priced: it was when it was placed, and every payment that stores it priced it from the same base.

* `Purchase`: a job that places an order or pays one;
* `Purchase.fairlyPriced_of_write`: **what a purchase writes** is fairly priced if what it fetched
  is;
* `Fair`, `Step.fair`: the orders in the store and the documents in flight are fairly priced;
* `price_of_stored`: the price of every stored order;
* `walletRun`: an order that is paid by wallet and by card in turn, with a tax and a fee on both.
-/

import Paydesk.Proofs.Flow.Succession
import Paydesk.Proofs.Office.Basic
import Paydesk.Proofs.Pricing.Fair

namespace Paydesk

/-! ### Purchases -/

/-- A job that places an order or pays one. -/
inductive Purchase where
  | place (request : OrderRequest)
  | pay (request : PaymentRequest) (provider : ProviderSettings)

/-- The job of a purchase. -/
def Purchase.job : Purchase → Job
  | place request => .place request
  | pay request provider => .pay request provider

/-- The flow of a purchase. -/
def Purchase.flow (settings : Settings) (purchase : Purchase) : Flow Outcome :=
  purchase.job.flow settings

/-- The order that a call is to write. -/
def Call.writes? : Call → Option Order
  | insert order | update order => some order
  | _ => none

variable {desk : Desk} {settings : Settings} {order : Order}

/-- A payment leaves the price alone after the handler answered. -/
theorem Order.samePrice_afterPayment (response : PaymentResponse) (now : Instant) :
    order.SamePrice (order.afterPayment response now) :=
  ⟨⟨rfl, rfl, rfl, rfl, rfl⟩, rfl, rfl, rfl, rfl, rfl, rfl, rfl, rfl, rfl⟩

/-- The next version of an order has its price. -/
theorem Order.samePrice_nextVersion {next : Order} (counted : order.nextVersion = .ok next) :
    order.SamePrice next := by
  rw [(nextVersion_eq_ok counted).1]
  exact ⟨⟨rfl, rfl, rfl, rfl, rfl⟩, rfl, rfl, rfl, rfl, rfl, rfl, rfl, rfl, rfl⟩

/-- **What a purchase writes** is fairly priced if what it fetched is. -/
theorem Purchase.fairlyPriced_of_write {purchase : Purchase} {heard : List Exchange}
    {question : Call} {next : question.Answer → Flow Outcome}
    (path : (purchase.flow settings).Goes heard (.call question next))
    (writes : question.writes? = some order)
    (told : ∀ exchange ∈ heard, desk.Says exchange.question exchange.answer)
    (fair : ∀ document ∈ documents heard, document.FairlyPriced desk settings) :
    order.FairlyPriced desk settings := by
  cases Job.course path told with
  | reading _ reads =>
    cases reads with
    | asking reading =>
      cases question with
      | insert | update => cases reading
      | _ => cases writes
  | @closing before after closing _ closes way =>
    cases purchase with
    | place request =>
      cases closes with
      | placing _ drafted =>
        cases way with
        | toInsert =>
          obtain rfl := Option.some.inj writes
          exact Order.fairlyPriced_of_drafts drafted
        | toAnnounceCreated => cases writes
    | pay request provider =>
      cases closes with
      | @paying _ _ asked base prepared _ _ _ _ prepares =>
        cases way with
        | toUpdate =>
          obtain rfl := Option.some.inj writes
          have fairBase := fair base (mem_documents.mpr ⟨⟨.fetch request.orderId, .ok (some base)⟩,
            List.mem_append_left _ (List.mem_append_left _ List.mem_cons_self), rfl⟩)
          exact (prepares.fairlyPriced fairBase).congr (Order.samePrice_afterPayment _ _)

/-- What comes from outside is in a manner. -/
def Action.Within {ι : Type} (manner : Manner) : Action ι → Prop
  | .start _ => True
  | .answer _ said => ∀ question, manner question (said question)

/-- A look-up is answered from outside. -/
theorem MemoryStore.serve_of_isLookup {store : MemoryStore} {question : Call}
    (said : question.Answer) (lookup : question.isLookup) :
    store.serve question said = (said, store) := by
  cases question with
  | fetch | fetchByClientId | insert | update => cases lookup
  | _ => rfl

namespace Office

variable {office after : Office (Purchase.flow settings)} {action : Action Purchase}

/-! ### Fair prices everywhere -/

/-- All orders of an office are fairly priced, and look-ups said what the tables say. -/
structure Fair (desk : Desk) (office : Office (Purchase.flow settings)) : Prop where
  stored : ∀ order ∈ office.store.orders, order.FairlyPriced desk settings
  given : ∀ document ∈ documents office.heard, document.FairlyPriced desk settings
  told : ∀ exchange ∈ office.heard, desk.Says exchange.question exchange.answer

/-- What a task is about to write is fairly priced. -/
theorem Fair.written (fair : Fair desk office) {task : Task (Purchase.flow settings)}
    (member : task ∈ office.tasks) {question : Call} {next : question.Answer → Flow Outcome}
    (waits : task.rest = .call question next) (writes : question.writes? = some order) :
    order.FairlyPriced desk settings := by
  have path := task.path
  rw [waits] at path
  refine Purchase.fairlyPriced_of_write path writes (fun exchange heard => ?_)
    fun document given => fair.given document (mem_documents_of_mem member given)
  exact fair.told exchange (List.mem_flatMap.mpr ⟨task, member, heard⟩)

/-- The orders of the store after an exchange are fairly priced. -/
theorem Fair.stored_after (fair : Fair desk office) {exchange : Exchange} {store : MemoryStore}
    (step : office.store.Step exchange store)
    (written : ∀ order, exchange.question.writes? = some order →
      order.FairlyPriced desk settings) :
    ∀ order ∈ store.orders, order.FairlyPriced desk settings := by
  cases step with
  | kept => exact fair.stored
  | @added new _ _ orders =>
    intro order member
    rw [orders, List.mem_append, List.mem_singleton] at member
    rcases member with before | rfl
    · exact fair.stored order before
    · exact written order rfl
  | @changed base new next _ _ _ counted =>
    intro order member
    rcases MemoryStore.mem_replace.mp member with ⟨before, -⟩ | ⟨rfl, -⟩
    · exact fair.stored order before
    · exact (written new rfl).congr (Order.samePrice_nextVersion counted)

/-- **What an action does** to fair prices: nothing. -/
theorem Step.fair (step : office.Step action after) (within : action.Within desk.Says)
    (fair : Fair desk office) : Fair desk after := by
  cases step with
  | quiet sameStore sameHeard =>
    refine ⟨?_, ?_, ?_⟩
    · rw [sameStore]
      exact fair.stored
    · rw [sameHeard]
      exact fair.given
    · rw [sameHeard]
      exact fair.told
  | @exchange _ said _ task question next answer member waits served heard =>
    have storeStep := MemoryStore.step_of_serve served
    have stored := fair.stored_after storeStep fun order writes => fair.written member waits writes
    refine ⟨stored, fun document given => ?_, fun exchange inside => ?_⟩
    · obtain ⟨exchange, inside, shown⟩ := mem_documents.mp given
      rcases List.mem_cons.mp (heard.mem_iff.mp inside) with rfl | earlier
      · exact stored document (storeStep.mem_orders shown)
      · exact fair.given document (mem_documents.mpr ⟨exchange, earlier, shown⟩)
    · rcases List.mem_cons.mp (heard.mem_iff.mp inside) with rfl | earlier
      · intro lookup succeeds
        rw [MemoryStore.serve_of_isLookup _ lookup] at served
        obtain ⟨rfl, -⟩ := Prod.mk.inj served
        exact within question lookup succeeds
      · exact fair.told exchange earlier

theorem fair_opened : Fair desk (opened (Purchase.flow settings) .empty) where
  stored := by simp [opened, MemoryStore.empty]
  given := by simp [opened, heard, documents]
  told := by simp [opened, heard]

/-- **The price of every stored order.** While look-ups fail or say what the tables of a desk say,
an office that starts with an empty store and only places and pays orders holds none but fairly
priced ones: whatever handlers answer, however often an order is paid for, with whatever methods. -/
theorem price_of_stored (desk : Desk) (settings : Settings) (actions : List (Action Purchase))
    (unchanged : ∀ action ∈ actions, action.Within desk.Says) :
    ∀ order ∈ ((opened (Purchase.flow settings) .empty).run actions).store.orders,
      order.FairlyPriced desk settings :=
  (induction (Fair desk) fair_opened fun office action member fair =>
    (office.step_act action).fair (unchanged action member) fair).stored

/-! ### Orders of a shop -/

/-- A project of a merchant that takes cards. -/
def shopOf (merchant : Merchant) : Project :=
  { id := "shop", merchant, name := "Shop"
    isActive := true, secretKey := ⟨""⟩, callbackProtocol := "default"
    callbackCurrency := "EUR", limitsCurrency := "EUR", least := .zero, most := .ofInt 100
    allowsNotifyUrls := false, allowsRedirectUrls := false, urlSuccess := none, urlFail := none
    urlCheckAccount := none, urlProcessPayment := none, sendsNotifyEmail := false
    notifyEmails := [], methods := Dict.empty.insert "card" [⟨"card", .epoch⟩]
    packages := ∅ }

/-- A method of a bank with books in euros. -/
def bankMethod (id name groupAlias currency : String) : PaymentMethod :=
  ⟨id, name, groupAlias, currency, .zero, .ofInt 100, true, ⟨"bank", "", "", ∅⟩,
    some ⟨"bank", "Bank", "LV", "EUR", "month", true⟩⟩

/-- A desk with one project that takes cards for euros. -/
def cardDesk : Desk :=
  let project := shopOf ⟨"merchant", "Merchant", "EUR", false, false⟩
  { catalog := ((Catalog.empty.addProject project).addMethod
      (bankMethod "card" "Card" "cards" "EUR")).addCurrency ⟨978, "EUR", "Euro", true⟩
    commissions := CommissionTable.empty.set "shop" "card" ⟨.zero, .zero, .zero⟩ }

/-- A desk with a wallet for dollars beside the card. The merchant takes a tax of twenty-one per
cent and shifts part of the commission, two per cent of what is paid by card and one by wallet. The
bank accepts payments that come with a code and decides nothing about the others. -/
def walletDesk : Desk :=
  let hundredths (count : Int64) : Decimal := (Amount.ofMinor count).value
  let project := shopOf ⟨"merchant", "Merchant", "EUR", true, true⟩
  { catalog := (((Catalog.empty.addProject project).addMethod
      (bankMethod "card" "Card" "cards" "EUR")).addMethod
      (bankMethod "wallet" "Wallet" "wallets" "USD")).addCurrency ⟨978, "EUR", "Euro", true⟩
    rates := ⟨[⟨"EUR", "USD", hundredths 125, .epoch⟩, ⟨"USD", "EUR", hundredths 80, .epoch⟩]⟩
    commissions := (CommissionTable.empty.set "shop" "card"
      ⟨hundredths 350, hundredths 150, hundredths 200⟩).set "shop" "wallet"
      ⟨hundredths 200, hundredths 100, hundredths 100⟩
    vat := VatTable.empty.set "LV" (hundredths 2100)
    handlers := HandlerRegistry.empty.register "bank"
      { createPayment := fun _ requisites =>
          { verdict := if requisites.contains "code" then .accepted else .pending, message := "" }
        readNotification := fun _ _ => { verdict := .pending, message := "" } } }

/-- A request for an order of ten euros from Latvia, to be paid by card. -/
def cardRequest : OrderRequest :=
  { projectId := "shop", amount := .ofInt 10, account := "payer", method := some "card"
    region := some "LV", payerEmail := some "payer@example.com" }

/-- An order by card, for which its payer tries the wallet and the card in turn, the last time with
a code. -/
def walletPurchases : List Purchase :=
  let attempt (method : String) (requisites : Dict String String) : Purchase :=
    .pay { orderId := "", methodId := method, requisites } ∅
  [.place cardRequest, attempt "wallet" ∅, attempt "card" ∅, attempt "wallet" ∅, attempt "card" ∅,
    attempt "card" (Dict.empty.insert "code" "1234")]

/-- Those purchases one after another, each with all of its calls answered by that desk. -/
def walletRun : List (Action Purchase) :=
  walletPurchases.zipIdx.flatMap fun (purchase, index) =>
    .start purchase :: List.replicate 24 (.answer index walletDesk.attend)

/-- The office after that run. -/
def walletOffice : Office (Purchase.flow {}) := (opened (Purchase.flow {}) .empty).run walletRun

/-- Ten euros are charged as 12.30 by card and 12.50 dollars as 15.26 by wallet, every time. -/
theorem price_of_stored_walletAndCard :
    (∀ action ∈ walletRun, action.Within walletDesk.Says) ∧
      (walletOffice.heard.filterMap Exchange.written?).map (·.methodOutcome) =
        [.ofMinor 1230, .ofMinor 1526, .ofMinor 1230, .ofMinor 1526, .ofMinor 1230, .ofMinor 1230] ∧
      ∃ order ∈ walletOffice.store.orders, order.version = 5 ∧ order.status = .created ∧
        order.methodOutcome = .ofMinor 1230 ∧ order.FairlyPriced walletDesk {} := by
  have unchanged : ∀ action ∈ walletRun, action.Within walletDesk.Says := by
    intro action member
    obtain ⟨⟨purchase, index⟩, -, inside⟩ := List.mem_flatMap.mp member
    rcases List.mem_cons.mp inside with rfl | answers
    · trivial
    · obtain ⟨-, rfl⟩ := List.mem_replicate.mp answers
      exact walletDesk.says_attend
  have fair : ∀ order ∈ walletOffice.store.orders, order.FairlyPriced walletDesk {} := by
    unfold walletOffice
    exact price_of_stored walletDesk {} walletRun unchanged
  have stored : (walletOffice.store.orders.map fun order =>
      (order.version, order.status, order.methodOutcome)) = [(5, .created, .ofMinor 1230)] := by
    decide +kernel
  obtain ⟨order, others, orders, isLast, -⟩ := List.map_eq_cons_iff.mp stored
  obtain ⟨version, rest⟩ := Prod.mk.inj isLast
  obtain ⟨status, charged⟩ := Prod.mk.inj rest
  have member : order ∈ walletOffice.store.orders := orders ▸ List.mem_cons_self
  exact ⟨unchanged, by decide +kernel, order, member, version, status, charged, fair order member⟩

end Office

end Paydesk
