import EventFeed.Client.Action
import EventFeed.Client.Remark

/-
  This file defines the course of an attempt: the moves it
  makes from its beginning to its end, whatever its
  transport.  A course is data; it has no effect until it is
  played.

  Key definitions include:
    * `Move`
    * `Course`
    * `Course.failure`
-/

------------------------------------------------------------
-- Courses
------------------------------------------------------------

namespace EventFeed

/- One move of an attempt. -/
inductive Move
  /- report something to the client -/
  | report (r : Report)
  /- leave a line in the log -/
  | remark (r : Remark)
  /- stop if the attempt is retired, with a remark or without -/
  | check (r : Option Remark)
  /- pause -/
  | wait (span : Span)
  /- pause for ever -/
  | hold
deriving DecidableEq, Inhabited, Repr

/- The moves of an attempt in order; it ends after them. -/
abbrev Course :=
  List Move

namespace Course

/- Report an error and end the attempt. -/
def failure (e : FeedError) : Course :=
  [.report (.error e), .report .closed]

end Course

end EventFeed
