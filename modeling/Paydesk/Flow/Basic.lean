/-
**Flows.**

A flow is a tree: it is done with a value, it stops, or it makes a call and goes on with the
answer. Nothing happens between two calls, so whatever runs several flows at once only has to
choose whose call is answered next.

* `Flow.ask`: the flow of a single call;
* `Flow.convert` and its kin: calls whose errors stop the flow;
* `Flow.run`: a flow with its calls answered one after another.
-/

import Paydesk.Flow.Call

namespace Paydesk

/-- A program of calls that ends with a value or stops. -/
inductive Flow (α : Type) where
  | done (value : α)
  | stop (reason : Stop)
  | call (question : Call) (next : question.Answer → Flow α)

namespace Flow

variable {α β : Type}

/-- One flow and then another that depends on its value. -/
def andThen (flow : Flow α) (next : α → Flow β) : Flow β :=
  match flow with
  | done value => next value
  | stop reason => stop reason
  | call question rest => call question fun answer => (rest answer).andThen next

instance : Monad Flow where
  pure := done
  bind := andThen

/-- The flow of a single call. -/
def ask (question : Call) : Flow question.Answer := call question done

/-- Stops for a fault of the request. -/
def refuse (refusal : Refusal) : Flow α := stop (.refused refusal)

/-- Stops for a fault of the desk. -/
def fail (failure : Failure) : Flow α := stop (.failed failure)

/-- A value, or a stop for what is missing. -/
def orRefuse (refusal : Refusal) : Option α → Flow α
  | some value => done value
  | none => refuse refusal

/-- Stops unless a rule holds. -/
def require (holds : Bool) (refusal : Refusal) : Flow Unit :=
  if holds then done () else refuse refusal

/-- A value, or a stop for an error. -/
def orStop {ε : Type} (wrap : ε → Stop) : Except ε α → Flow α
  | .ok value => done value
  | .error error => stop (wrap error)

/-- A value, or a stop for what an error means to the desk. -/
def orFail {ε : Type} (wrap : ε → Failure) : Except ε α → Flow α :=
  orStop fun error => .failed (wrap error)

/-- A sum, or a stop where no decimal can hold it. -/
def unlessOverflow : Except Overflow α → Flow α
  | .ok value => done value
  | .error overflow => stop (.overflow overflow)

/-! ### Calls whose errors stop the flow -/

def project (id : String) : Flow (Option Project) := do
  orFail .catalog (← ask (.project id))

def method (id : String) : Flow (Option PaymentMethod) := do
  orFail .catalog (← ask (.method id))

def currency (code : String) : Flow (Option Currency) := do
  orFail .catalog (← ask (.currency code))

def convert (base quote : String) (amount : Amount) : Flow Amount := do
  orFail .conversion (← ask (.convert base quote amount))

def commission (projectId methodId : String) (amount : Amount) : Flow Commission := do
  orFail .commission (← ask (.commission projectId methodId amount))

def vat (country : String) (subdivision : Option String) (amount : Amount) : Flow Amount := do
  orFail .vat (← ask (.vat country subdivision amount))

def fetch (id : String) : Flow (Option Order) := do
  orStop .ofStore (← ask (.fetch id))

def fetchByClientId (projectId clientId : String) : Flow (Option Order) := do
  orStop .ofStore (← ask (.fetchByClientId projectId clientId))

def insert (order : Order) : Flow Order := do
  orStop .ofStore (← ask (.insert order))

def update (order : Order) : Flow Order := do
  orStop .ofStore (← ask (.update order))

def publish (message : Message) : Flow Unit := do
  orFail .publish (← ask (.publish message))

/-! ### Running -/

/-- A flow with every call answered in a monad. -/
def run {m : Type → Type} [Monad m] (answer : (question : Call) → m question.Answer) :
    Flow α → m (Except Stop α)
  | done value => pure (.ok value)
  | stop reason => pure (.error reason)
  | call question next => do (next (← answer question)).run answer

end Flow

end Paydesk
