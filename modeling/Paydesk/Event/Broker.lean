/-
**Publishing orders.**

A settled order is published under a topic with headers. The broker hands every message to one
handler over a channel, and refuses messages once the handler is gone.

* `Message.ofOrder`: what is published of an order, with a retry count of zero;
* `Channel.deliver`: hands a message to the handler.
-/

import Paydesk.Event.Channel
import Paydesk.Order.Event

namespace Paydesk

/-- A published order. -/
structure Message where
  topic : String
  headers : Dict String Int
  event : OrderEvent
  deriving DecidableEq

namespace Message

/-- The header that counts how often a message was delivered before. -/
def retryHeader : String := "x-retry-count"

/-- The message of an order, for its first delivery. -/
def ofOrder (topic : String) (order : Order) : Message :=
  ⟨topic, Dict.empty.insert retryHeader 0, OrderEvent.ofOrder order⟩

/-- The document of a message. -/
def write (message : Message) : Json :=
  .object [("topic", .text message.topic), ("headers", Json.writeTextDict .int message.headers),
    ("event", message.event.write)]

end Message

/-- Why a message is not published. -/
inductive BrokerError where
  | closed (topic : String)
  | failed (topic reason : String)
  deriving DecidableEq

/-- The text of an error. -/
def BrokerError.message : BrokerError → String
  | closed topic => s!"The message broker is not accepting messages: {topic}"
  | failed topic reason => s!"Could not publish message to {topic}: {reason}"

/-- Hands a message to the handler of a channel. -/
def Channel.deliver (channel : Channel Message) (message : Message) :
    Except BrokerError (Channel Message) :=
  match channel.send message with
  | some channel => .ok channel
  | none => .error (.closed message.topic)

end Paydesk
