import EventFeed.Time

/-
  This file defines the watch for silence: an alarm that goes
  off once when its window passes without a reset.

  Every reset issues a new token.  Only the token of the
  latest reset is current, and only until the watch is
  stopped; an alarm that has gone off leaves it current, for
  it is the owner who disarms the watch.

  Key definitions include:
    * `Alarm`
    * `Keepalive`
    * `Keepalive.reset`
    * `Keepalive.stop`
    * `Keepalive.ring?`
    * `Keepalive.isCurrent`
-/

------------------------------------------------------------
-- Watch for Silence
------------------------------------------------------------

namespace EventFeed

/- An alarm that waits for an instant, or has gone off. -/
inductive Alarm
  | waiting (due : Time)
  | rung
deriving DecidableEq, Inhabited, Repr

/-
  A watch: its window, the token of its latest reset, and
  its alarm while it is armed.
-/
structure Keepalive where
  window : Span
  token : UInt64
  alarm : Option Alarm
deriving DecidableEq, Inhabited, Repr

namespace Keepalive

/- A watch that was never armed. -/
def new (window : Span) : Keepalive :=
  ⟨window, 0, none⟩

/- Start a fresh window at the given instant. -/
def reset (k : Keepalive) (now : Time) : Keepalive :=
  { k with
    token := k.token + 1
    alarm := some (.waiting (now + k.window)) }

/- Disarm the watch; its alarm will not go off. -/
def stop (k : Keepalive) : Keepalive :=
  { k with alarm := none }

/- Whether the watch is armed. -/
def isArmed (k : Keepalive) : Bool :=
  k.alarm.isSome

/- Whether the token is that of the live arming. -/
def isCurrent (k : Keepalive) (token : UInt64) : Bool :=
  k.isArmed && token == k.token

/- The instant at which the alarm will go off. -/
def due? (k : Keepalive) : Option Time :=
  match k.alarm with
  | some (.waiting due) => some due
  | _ => none

/- The watch after its alarm has gone off. -/
def ring (k : Keepalive) : Keepalive :=
  match k.alarm with
  | some (.waiting _) => { k with alarm := some .rung }
  | _ => k

/-
  Let time reach an instant: the watch, and the token that
  goes off by then.
-/
def ring?
    (k : Keepalive)
    (now : Time) : Keepalive × Option UInt64 :=
  match k.due? with
  | some due =>
      if due ≤ now then (k.ring, some k.token) else (k, none)
  | none => (k, none)

end Keepalive

end EventFeed
