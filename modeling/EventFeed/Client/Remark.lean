import EventFeed.Client.Callback
import EventFeed.Client.Phase
import EventFeed.Client.Transport
import EventFeed.Log
import EventFeed.Time
import EventFeed.Url.Basic

/-
  This file defines what a client remarks about its own work,
  and the log lines it writes for it.

  Key definitions include:
    * `Remark`
    * `Remark.level`
    * `Remark.topic`
    * `Remark.message`
    * `Remark.line`
-/

------------------------------------------------------------
-- Remarks
------------------------------------------------------------

namespace EventFeed

/- Something a client finds worth a line in its log. -/
inductive Remark
  /- a connect was accepted -/
  | connecting (url : Url) (kind : Transport.Kind)
  /- the phase changed -/
  | changed (before after : Phase)
  /- an attempt was started -/
  | starting (kind : Transport.Kind) (generation : UInt64)
  /- the connection opened -/
  | connected (url : Url) (elapsed : Span)
  /- a failure came after a disconnect -/
  | ignored
  /- a failure came and recovery is off -/
  | lost
  /- a failure came and the budget is used up -/
  | gaveUp (ceiling : UInt32)
  /- a reconnect was scheduled -/
  | waiting (interval : Span) (attempt : UInt32)
  /- a reconnect timer fired too late -/
  | staleTimer
  /- a reconnect timer fired -/
  | retrying (attempt : UInt32) (url : Url)
  /- the silence lasted for the whole window -/
  | silent (window : Span)
  /- a silence was noticed too late -/
  | staleSilence
  /- the silence leads to a reconnect -/
  | timedOut (window : Span)
  /- an event came from a retired attempt -/
  | staleEvent (type : String)
  /- an error came from a retired attempt -/
  | staleError (error : FeedError)
  /- an error came from the live attempt -/
  | failed (error : FeedError)
  /- a disconnect took effect -/
  | disconnected (url : Url)
  /- a ping is being delivered -/
  | ping
  /- a message is being delivered -/
  | event (type : String) (structured : Bool)
  /- a handler failed -/
  | panicked (slot : Slot)
  /- a native attempt noticed that it is retired -/
  | sourceRetired
  /- an authenticated attempt noticed that it is retired -/
  | bodyRetired
  /- the body ended within a frame -/
  | partialFrame
  /- the body ended -/
  | streamEnded
deriving DecidableEq, Inhabited, Repr

namespace Remark

/- How much a remark matters. -/
def level : Remark → Level
  | connecting _ _ => .info
  | changed _ _ => .debug
  | starting _ _ => .debug
  | connected _ _ => .info
  | ignored => .debug
  | lost => .info
  | gaveUp _ => .warn
  | waiting _ _ => .info
  | staleTimer => .debug
  | retrying _ _ => .info
  | silent _ => .debug
  | staleSilence => .debug
  | timedOut _ => .warn
  | staleEvent _ => .debug
  | staleError _ => .debug
  | failed _ => .warn
  | disconnected _ => .info
  | ping => .debug
  | event _ _ => .debug
  | panicked _ => .error
  | sourceRetired => .debug
  | bodyRetired => .debug
  | partialFrame => .debug
  | streamEnded => .info

/- The part of the program that a remark belongs to. -/
def topic : Remark → Topic
  | silent _ => .keepalive
  | ping => .delivery
  | event _ _ => .delivery
  | panicked _ => .handlers
  | sourceRetired => .native
  | bodyRetired => .authenticated
  | partialFrame => .authenticated
  | streamEnded => .authenticated
  | _ => .client

/- The remark in words. -/
def message : Remark → String
  | connecting url kind =>
      "Connecting to " ++ url.text ++ " (" ++ kind.name ++
        " transport)"
  | changed before after =>
      "Connection state " ++ before.name ++ " -> " ++
        after.name
  | starting kind generation =>
      "Starting " ++ kind.name ++ " transport (generation " ++
        toString generation.toNat ++ ")"
  | connected url elapsed =>
      "Connected to " ++ url.text ++ " in " ++ Span.text elapsed
  | ignored =>
      "Disconnect signal after manual disconnect, ignoring"
  | lost => "Connection lost, auto-reconnect disabled"
  | gaveUp ceiling =>
      "Max reconnect attempts (" ++ toString ceiling.toNat ++
        ") reached, giving up"
  | waiting interval attempt =>
      "Reconnecting in " ++ Span.text interval ++
        " (attempt " ++ toString attempt.toNat ++ ")"
  | staleTimer => "Stale reconnect timer, ignoring"
  | retrying attempt url =>
      "Reconnect attempt " ++ toString attempt.toNat ++
        " to " ++ url.text
  | silent window =>
      "Keepalive window of " ++ Span.text window ++ " elapsed"
  | staleSilence => "Stale keepalive expiry, ignoring"
  | timedOut window =>
      (FeedError.timeout
        ("no events for " ++ Span.text window)).message ++
        ", forcing reconnect"
  | staleEvent type =>
      "Discarding '" ++ type ++ "' event from stale connection"
  | staleError error =>
      "Discarding error from stale connection: " ++
        error.message
  | failed error => "Stream error: " ++ error.message
  | disconnected url => "Disconnected from " ++ url.text
  | ping => "Ping received"
  | event type structured =>
      "Event '" ++ type ++ "' received (" ++
        (if structured then "structured" else "raw") ++
        " payload)"
  | panicked slot =>
      slot.described ++ " handler panicked, continuing"
  | sourceRetired =>
      "Attempt retired, closing native primitive"
  | bodyRetired => "Attempt retired, dropping response body"
  | partialFrame =>
      "Stream ended with a partial frame, discarding it"
  | streamEnded => "Event stream ended by server"

/- The line that a remark leaves in the log. -/
def line (r : Remark) : LogLine :=
  ⟨r.level, r.topic, r.message⟩

end Remark

end EventFeed
