import EventFeed.Attempt.Course

/-
  This file defines the signals of a native source, which
  reads the wire format by itself, and the course of an
  attempt that follows them.

  Key definitions include:
    * `Signal`
    * `Signal.isTerminal`
    * `Signal.course`
-/

------------------------------------------------------------
-- Signals
------------------------------------------------------------

namespace EventFeed

/- What a native source tells the attempt that uses it. -/
inductive Signal
  /- the source is open -/
  | opened
  /- a complete event arrived -/
  | frame (e : Event)
  /- the source failed; it may have closed for that reason -/
  | error (message : String) (final : Bool)
  /- the source closed -/
  | closed
  /- the source is silent for a while -/
  | wait (span : Span)
  /- the source is silent for ever -/
  | hold
deriving DecidableEq, Inhabited, Repr

namespace Signal

/- Whether the attempt ends with this signal. -/
def isTerminal : Signal → Bool
  | error _ final => final
  | closed => true
  | _ => false

------------------------------------------------------------
-- Course
------------------------------------------------------------

/- Look whether the attempt is retired before each signal. -/
def checkpoint : Move :=
  .check (some .sourceRetired)

/-
  The course of an attempt that follows the signals of its
  source.  It ends with the first terminal signal, and a
  source that ends without one counts as closed.
-/
def course : List Signal → Course
  | [] => [.report .closed]
  | .opened :: rest =>
      checkpoint :: .report .opened :: course rest
  | .frame e :: rest =>
      checkpoint :: .report (.event e) :: course rest
  | .error message true :: _ =>
      checkpoint :: Course.failure (.transport message)
  | .error message false :: rest =>
      checkpoint :: .report (.error (.transport message)) ::
        course rest
  | .closed :: _ => [checkpoint, .report .closed]
  | .wait span :: rest => .wait span :: course rest
  | .hold :: _ => [.hold]

end Signal

end EventFeed
