/-
  This file defines the counters of a client.

  Key definitions include:
    * `Tally`
    * `Tally.Counter`
    * `Tally.count`
-/

------------------------------------------------------------
-- Counters
------------------------------------------------------------

namespace EventFeed

/-
  What a client has counted since it was built.  Events count
  the pings among them; counters wrap at sixty-four bits and
  are never reset.
-/
structure Tally where
  events : UInt64
  pings : UInt64
  errors : UInt64
  reconnects : UInt64
deriving DecidableEq, Inhabited, Repr

namespace Tally

/- Nothing counted. -/
def zero : Tally :=
  ⟨0, 0, 0, 0⟩

/- What can be counted. -/
inductive Counter
  | events
  | pings
  | errors
  | reconnects
deriving DecidableEq, Inhabited, Repr

/- Add to one counter. -/
def add (t : Tally) (c : Counter) (n : UInt64) : Tally :=
  match c with
  | .events => { t with events := t.events + n }
  | .pings => { t with pings := t.pings + n }
  | .errors => { t with errors := t.errors + n }
  | .reconnects => { t with reconnects := t.reconnects + n }

/- Count one more. -/
def count (t : Tally) (c : Counter) : Tally :=
  t.add c 1

end Tally

end EventFeed
