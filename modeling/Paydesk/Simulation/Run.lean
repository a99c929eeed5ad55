/-
**Simulations.**

A simulation runs flows in a world whose parties can be made to fail, with a scripted handler, a
given time, and ids that count the orders which were to be stored.

* `Simulation.answer`: the answer to a call, unless its party fails;
* `Simulation.place`, `Simulation.pay`, `Simulation.process`: the three flows;
* `Simulation.stored`: an order of the store, whatever is made to fail.
-/

import Paydesk.Desk.World
import Paydesk.Flow.CreatePayment
import Paydesk.Flow.NewOrder
import Paydesk.Flow.Notify
import Paydesk.Report.Merchant
import Paydesk.Simulation.FaultyStore
import Paydesk.Simulation.Script

namespace Paydesk

/-- A world with outages and counts of what was asked for. -/
structure Simulation (σ : Type) where
  world : World (FaultyStore σ)
  settings : Settings := {}
  /-- How many orders were to be stored. -/
  inserts : Nat := 0
  createCalls : Nat := 0
  notifyCalls : Nat := 0

/-- The id of a number: 32 hexadecimal digits. -/
def numberedId (number : Nat) : String :=
  String.ofList (Text.padZeros 32 (Nat.toDigits 16 number))

/-- What is given to a flow from outside. -/
structure Surroundings where
  now : Instant
  /-- The id to give away in place of a numbered one. -/
  id : Option String := none
  script : Script := {}

namespace Simulation

variable {σ : Type} [OrderStore σ]

/-- The parties that fail. -/
def outages (simulation : Simulation σ) : Outages := simulation.world.store.outages

/-- Changes the desk. -/
def mapDesk (change : Desk → Desk) (simulation : Simulation σ) : Simulation σ :=
  { simulation with world := { simulation.world with desk := change simulation.world.desk } }

/-- Changes the store. -/
def mapStore (change : FaultyStore σ → FaultyStore σ) (simulation : Simulation σ) :
    Simulation σ :=
  { simulation with world := { simulation.world with store := change simulation.world.store } }

/-- Makes a party fail for a reason, or restores it. -/
def setOutage (service : String) (reason : Option String) : Simulation σ → Simulation σ :=
  mapStore fun store => { store with outages := store.outages.set service reason }

/-- An order of the store, whatever is made to fail. -/
def stored (simulation : Simulation σ) (id : String) : Except StoreError (Option Order) :=
  OrderStore.fetch simulation.world.store.inner id

/-- Stores an order once more as it is. -/
def storeAgain (id : String) (simulation : Simulation σ) : Simulation σ :=
  match simulation.stored id with
  | .ok (some order) =>
    match OrderStore.update simulation.world.store.inner order with
    | .ok (_, inner) => mapStore (fun store => { store with inner }) simulation
    | .error _ => simulation
  | _ => simulation

/-- What happens before a handler is asked about an order. -/
def beforeHandler (script : Script) (order : Order) (count : Simulation σ → Simulation σ)
    (simulation : Simulation σ) : Simulation σ :=
  match simulation.world.desk.handlers.handler order with
  | .error _ => simulation
  | .ok _ => if script.interferes then storeAgain order.id (count simulation) else count simulation

/-- What happens before a call is answered: handlers and the store count what they are asked. -/
def before (script : Script) (simulation : Simulation σ) : Call → Simulation σ
  | .createPayment order _ _ =>
    beforeHandler script order
      (fun simulation => { simulation with createCalls := simulation.createCalls + 1 }) simulation
  | .readNotification order _ _ =>
    beforeHandler script order
      (fun simulation => { simulation with notifyCalls := simulation.notifyCalls + 1 }) simulation
  | .insert _ =>
    if simulation.outages.contains "insert" then simulation
    else { simulation with inserts := simulation.inserts + 1 }
  | _ => simulation

/-- The answer of the world to a call. -/
def worldAnswer (surroundings : Surroundings) (question : Call) (simulation : Simulation σ) :
    question.Answer × Simulation σ :=
  let freshId := surroundings.id.getD (numberedId (simulation.inserts + 1))
  let ready := before surroundings.script simulation question
  let (answer, world) := (World.answer surroundings.now freshId question).run ready.world
  (answer, { ready with world })

/-- The answer to a call, unless its party fails. -/
def answer (surroundings : Surroundings) (question : Call) :
    StateM (Simulation σ) question.Answer := fun simulation =>
  match simulation.outages.reason? question.services >>= (question.broken? ·) with
  | some answer => (answer, simulation)
  | none => worldAnswer surroundings question simulation

/-- A flow from its first call to its end. -/
def runFlow {α : Type} (surroundings : Surroundings) (flow : Flow α) :
    StateM (Simulation σ) (Except Stop α) := do
  modify <| mapDesk fun desk =>
    { desk with handlers := HandlerRegistry.empty.register "scripted" surroundings.script.handler }
  flow.run (answer surroundings)

/-- Places an order. -/
def place (surroundings : Surroundings) (request : OrderRequest) :
    StateM (Simulation σ) (Except Stop Order) := do
  runFlow surroundings (request.place (← get).settings)

/-- Pays an order. -/
def pay (surroundings : Surroundings) (request : PaymentRequest) (provider : ProviderSettings) :
    StateM (Simulation σ) (Except Stop PaymentResponse) := do
  runFlow surroundings (request.pay (← get).settings provider)

/-- Processes a notification. -/
def process (surroundings : Surroundings) (notification : Notification)
    (provider : ProviderSettings) : StateM (Simulation σ) (Except Stop NoticeOutcome) := do
  runFlow surroundings (notification.process (← get).settings provider)

/-- A report, unless reports of its name fail. -/
def report {α : Type} (simulation : Simulation σ) (service : String)
    (make : FaultyStore σ → Except ReportError α) : Except ReportError α :=
  match simulation.outages.get? service with
  | some reason => .error (.store (.failed reason))
  | none => make simulation.world.store

end Simulation

end Paydesk
