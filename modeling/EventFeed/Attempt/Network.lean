import EventFeed.Attempt.Body
import EventFeed.Attempt.Stream
import EventFeed.Session

/-
  This file defines sessions over a network, where each
  attempt sends a request and something comes of it.

  Key definitions include:
    * `Attempt.course`
    * `Session.overNetwork`
    * `Session.requests`
-/

------------------------------------------------------------
-- Courses
------------------------------------------------------------

namespace EventFeed

namespace Attempt

/- The course of an attempt, given what comes of it. -/
def course (c : Config) (o : Http.Outcome) : Course :=
  match c.transport with
  | .native => native c.url o
  | .authenticated credential =>
      authenticated c.url credential o

end Attempt

------------------------------------------------------------
-- Sessions
------------------------------------------------------------

namespace Session

/- A session whose attempts come out as given. -/
def overNetwork
    (c : Client)
    (outcomes : Nat → Http.Outcome) : Session :=
  new c fun n => Attempt.course c.config (outcomes n)

/- The requests that have reached a server. -/
def requests
    (s : Session)
    (outcomes : Nat → Http.Outcome) : List Http.Request :=
  Http.Request.sent s.client.config
    ((List.range s.begun.size).map outcomes)

/- Whether the client is closed. -/
def isClosed (s : Session) : Bool :=
  s.client.link.published == .closed

end Session

end EventFeed
