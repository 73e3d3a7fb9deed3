import EventFeed.Log
import EventFeed.Text.Form

/-
  This file defines how a program runs: a banner, its own
  work, and a banner at the end, whatever came of the work.

  Key definitions include:
    * `RunPlan`
    * `RunPlan.withStatusEvery`
    * `RunPlan.banner`
    * `RunPlan.farewell`
    * `RunPlan.execute`
-/

------------------------------------------------------------
-- Plans
------------------------------------------------------------

namespace EventFeed

/- The name of a program and the seconds between reports. -/
structure RunPlan where
  name : String
  statusEvery : UInt64
deriving DecidableEq, Inhabited, Repr

namespace RunPlan

/- A program that reports every minute. -/
def new (name : String) : RunPlan :=
  ⟨name, 60⟩

/- Report at another pace, but not without any pause. -/
def withStatusEvery (p : RunPlan) (seconds : UInt64) : RunPlan :=
  { p with statusEvery := max seconds 1 }

/- The plan as a described value. -/
def described (p : RunPlan) : String :=
  Text.Form.named "RunConfig"
    [("name", Text.quoted p.name),
      ("status_interval_secs", toString p.statusEvery.toNat)]

------------------------------------------------------------
-- Banners
------------------------------------------------------------

/- A line of a banner. -/
def line (message : String) : LogLine :=
  ⟨.info, .runner, message⟩

/- The rule around a banner. -/
def rule : String :=
  "========================================"

/- What is logged at the start. -/
def banner (p : RunPlan) : List LogLine :=
  ["", rule, "Starting " ++ p.name,
    "Status every " ++ toString p.statusEvery.toNat ++ "s",
    "Press Ctrl+C to stop", rule, ""].map line

/- What is logged at the end. -/
def farewell (p : RunPlan) (stats : Option String) :
    List LogLine :=
  (["", rule, p.name ++ " stopped gracefully"] ++
    stats.toList ++ [rule]).map line

/- The log of a run, around that of its own work. -/
def execute
    (p : RunPlan)
    (work : List LogLine)
    (stats : Option String) : List LogLine :=
  p.banner ++ work ++ p.farewell stats

end RunPlan

end EventFeed
