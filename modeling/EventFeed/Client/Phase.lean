/-
  This file defines the phases of a connection.

  Key definitions include:
    * `Phase`
    * `Phase.name`
    * `Phase.acceptsConnect`
    * `Phase.isActive`
-/

------------------------------------------------------------
-- Phases
------------------------------------------------------------

namespace EventFeed

/-
  Where a connection stands.  It is idle until the first
  connect, and closed after a disconnect or when recovery
  has been given up.
-/
inductive Phase
  | idle
  | connecting
  | opened
  | reconnecting
  | closed
deriving DecidableEq, Inhabited, Repr

namespace Phase

/- The phase in lower case. -/
def name : Phase → String
  | idle => "idle"
  | connecting => "connecting"
  | opened => "open"
  | reconnecting => "reconnecting"
  | closed => "closed"

/- The phase as a described value. -/
def described : Phase → String
  | idle => "Idle"
  | connecting => "Connecting"
  | opened => "Open"
  | reconnecting => "Reconnecting"
  | closed => "Closed"

/- The number of the phase. -/
def code : Phase → Nat
  | idle => 0
  | connecting => 1
  | opened => 2
  | reconnecting => 3
  | closed => 4

/- Whether a connect is accepted. -/
def acceptsConnect : Phase → Bool
  | idle => true
  | closed => true
  | _ => false

/- Whether an attempt may be delivering signals. -/
def isActive : Phase → Bool
  | connecting => true
  | opened => true
  | _ => false

/- Whether the connection is open. -/
def isOpen : Phase → Bool
  | opened => true
  | _ => false

end Phase

end EventFeed
