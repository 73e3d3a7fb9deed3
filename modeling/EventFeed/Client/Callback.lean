import EventFeed.FeedError
import EventFeed.Event
import EventFeed.Payload

/-
  This file defines what a client tells its handlers, and how
  an event is turned into such a call.

  Key definitions include:
    * `Slot`
    * `Callback`
    * `Callback.slot`
    * `Delivery`
    * `Event.callback`
    * `Event.delivery`
-/

------------------------------------------------------------
-- Slots
------------------------------------------------------------

namespace EventFeed

/- The seven places for a handler. -/
inductive Slot
  | opened
  | message
  | ping
  | error
  | reconnecting
  | reconnected
  | closed
deriving DecidableEq, Inhabited, Repr

namespace Slot

/- All slots, in the order in which they are listed. -/
def all : List Slot :=
  [opened, message, ping, error, reconnecting, reconnected,
    closed]

/- The slot in lower case. -/
def name : Slot → String
  | opened => "open"
  | message => "message"
  | ping => "ping"
  | error => "error"
  | reconnecting => "reconnecting"
  | reconnected => "reconnected"
  | closed => "close"

/- The slot as a described value. -/
def described : Slot → String
  | opened => "Open"
  | message => "Message"
  | ping => "Ping"
  | error => "Error"
  | reconnecting => "Reconnecting"
  | reconnected => "Reconnected"
  | closed => "Close"

end Slot

------------------------------------------------------------
-- Callbacks
------------------------------------------------------------

/- A call owed to the handler of a slot. -/
inductive Callback
  | opened
  | message (payload : Payload) (event : Event)
  | ping (data : String)
  | error (e : FeedError)
  | reconnecting (attempt : UInt32)
  | reconnected (attempt : UInt32)
  | closed
deriving Inhabited, Repr

namespace Callback

/- The slot whose handler gets the call. -/
def slot : Callback → Slot
  | opened => .opened
  | message _ _ => .message
  | ping _ => .ping
  | error _ => .error
  | reconnecting _ => .reconnecting
  | reconnected _ => .reconnected
  | closed => .closed

end Callback

------------------------------------------------------------
-- Events as Callbacks
------------------------------------------------------------

/- As what an event was delivered. -/
inductive Delivery
  | ping
  | message (structured : Bool)
deriving DecidableEq, Inhabited, Repr

namespace Event

/-
  The call that an event leads to: a ping goes to its own
  slot with its data, any other event to the message slot
  with its payload decoded.
-/
def callback (e : Event) : Callback :=
  if e.isPing then
    .ping e.data
  else
    .message (Payload.decode e.data) e

/- As what an event is delivered, whoever listens. -/
def delivery (e : Event) : Delivery :=
  if e.isPing then
    .ping
  else
    .message (Payload.decode e.data).isStructured

end Event

end EventFeed
