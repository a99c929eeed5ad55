/-
**Event channels.**

Producers send events into a channel, and a handler works on every event that the channel has
taken. Once the handler is gone the channel is closed and takes nothing more. An event whose work
fails is lost; the other events are worked on all the same.

* `Channel.opened`: a channel with room for some events, at least one;
* `Channel.send`: refused by a closed channel;
* `Channel.publish`: the same without a word of the refusal;
* `Channel.handled`: the events whose work was done.
-/

namespace Paydesk

/-- A channel and the events that it took, the first one first. -/
structure Channel (ε : Type) where
  isClosed : Bool := false
  taken : List ε := []

/-- A channel cannot do without room. -/
inductive ChannelError where
  | noRoom
  deriving DecidableEq

/-- The text of an error. -/
def ChannelError.message : ChannelError → String
  | noRoom => "mpsc bounded channel requires buffer > 0"

namespace Channel

variable {ε : Type}

/-- An open channel with room for so many events that wait for the handler. -/
def opened (room : Nat) : Except ChannelError (Channel ε) :=
  if room = 0 then .error .noRoom else .ok {}

/-- The channel after its handler is gone. -/
def close (channel : Channel ε) : Channel ε := { channel with isClosed := true }

/-- Sends an event; a closed channel takes none. -/
def send (channel : Channel ε) (event : ε) : Option (Channel ε) :=
  if channel.isClosed then none else some { channel with taken := channel.taken ++ [event] }

/-- Sends an event if the channel is open. -/
def publish (channel : Channel ε) (event : ε) : Channel ε := (channel.send event).getD channel

/-- The events whose work does not fail. -/
def handled (channel : Channel ε) (fails : ε → Bool) : List ε := channel.taken.filter (!fails ·)

end Channel

end Paydesk
