/-
**Settings.**

The desk reads its settings from named variables; whatever is missing or makes no sense takes its
default.

* `Settings.ofVariables`: the settings that variables give;
* `readFlag`: a switch in words.
-/

import Paydesk.Text.Blank
import Paydesk.Text.Integer

namespace Paydesk

/-- A switch that is on or off in one of four words each; any other text leaves the default. -/
def readFlag (text : Option String) (default : Bool) : Bool :=
  match text with
  | none => default
  | some text =>
    let word := Text.lowerCase (Text.trimBlank text)
    if ["1", "true", "yes", "on"].contains word then true
    else if ["0", "false", "no", "off"].contains word then false
    else default

/-- What the desk runs with. -/
structure Settings where
  databaseUrl : String := "sqlite://data/psp_orders.db"
  maxConnections : Nat := 5
  /-- The currency that the provider keeps its own books in. -/
  pspCurrency : String := "EUR"
  /-- The topic that settled orders are published under. -/
  notifyTopic : String := "notify_payment"
  eventBuffer : Nat := 25
  /-- Whether requests without a signature are refused. -/
  requireSignature : Bool := false
  deriving DecidableEq

namespace Settings

/-- A currency code in capitals, if a text is one. -/
def readCurrency? (text : String) : Option String :=
  let code := Text.upperCase (Text.trimBlank text)
  if code.toList.length = 3 ∧ code.toList.all Text.isLetter then some code else none

/-- A natural number below a bound. -/
def readBelow? (bound : Nat) (text : String) : Option Nat :=
  (Text.readNat? text).filter (· < bound)

/-- The settings that variables give. -/
def ofVariables (lookup : String → Option String) : Settings :=
  let defaults : Settings := {}
  { databaseUrl := (lookup "PSP_DATABASE_URL").getD defaults.databaseUrl
    maxConnections :=
      ((lookup "PSP_DB_MAX_CONNECTIONS").bind (readBelow? (Nat.pow 2 32))).getD
        defaults.maxConnections
    pspCurrency :=
      ((lookup "PSP_ACCOUNTING_CURRENCY").bind readCurrency?).getD defaults.pspCurrency
    notifyTopic :=
      ((lookup "PSP_NOTIFY_TOPIC").filter fun topic => Text.trimBlank topic != "").getD
        defaults.notifyTopic
    eventBuffer :=
      (((lookup "PSP_EVENT_BUFFER_SIZE").bind (readBelow? (Nat.pow 2 64))).filter (0 < ·)).getD
        defaults.eventBuffer
    requireSignature :=
      readFlag (lookup "PSP_REQUIRE_SIGNATURE") defaults.requireSignature }

end Settings

end Paydesk
