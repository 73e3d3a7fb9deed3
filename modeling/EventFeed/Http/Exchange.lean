import EventFeed.Config

/-
  This file defines what passes between a client and its
  server in one attempt: a request and what comes of it.

  Key definitions include:
    * `Http.Request`
    * `Http.Ending`
    * `Http.Reply`
    * `Http.Outcome`
    * `Http.Request.ofConfig?`
    * `Http.Request.sent`
-/

------------------------------------------------------------
-- Replies
------------------------------------------------------------

namespace EventFeed

namespace Http

/- How the body of a reply ends. -/
inductive Ending
  /- it is complete -/
  | complete
  /- it breaks off -/
  | broken
  /- it does not end, but nothing more comes -/
  | silent
deriving DecidableEq, Inhabited, Repr

/- What a server answers. -/
structure Reply where
  status : UInt16
  contentType : Option String
  chunks : List (List UInt8)
  ending : Ending
deriving DecidableEq, Inhabited, Repr

/- What comes of a request. -/
inductive Outcome
  /- nobody listens -/
  | refused
  /- the connection ends without a reply -/
  | dropped
  /- a reply -/
  | answered (r : Reply)
deriving DecidableEq, Inhabited, Repr

------------------------------------------------------------
-- Requests
------------------------------------------------------------

/- The type of the bodies that a client accepts. -/
def streamType : String :=
  "text/event-stream"

/- What a client asks for, with its headers by name. -/
structure Request where
  target : String
  headers : List (String × String)
deriving DecidableEq, Inhabited, Repr

/- Whether a text may stand in a header. -/
def isHeaderText (s : String) : Bool :=
  s.toList.all fun c => c == '\t' || (' ' ≤ c && c != '\x7f')

namespace Request

/-
  The request of every attempt with a configuration, unless
  its credential cannot stand in a header.
-/
def ofConfig? (c : Config) : Option Request :=
  match c.transport with
  | .native =>
      some
        ⟨c.url.target,
          [("accept", streamType), ("accept", streamType)]⟩
  | .authenticated credential =>
      if isHeaderText credential then
        some
          ⟨c.url.target,
            [("accept", streamType),
              ("authorization", "Bearer " ++ credential),
              ("cache-control", "no-cache")]⟩
      else
        none

/- The requests that reach a server with these outcomes. -/
def sent (c : Config) (outcomes : List Outcome) : List Request :=
  outcomes.filterMap fun o =>
    if o = .refused then none else ofConfig? c

/- The first line of a request. -/
def line (r : Request) : String :=
  "GET " ++ r.target ++ " HTTP/1.1"

end Request

/- What is said when an attempt got no reply. -/
def sendError (url : Url) : String :=
  "error sending request for url (" ++ url.requested ++ ")"

/- What is said when a request could not be put together. -/
def buildError : String :=
  "builder error"

/- What is said when a body breaks off. -/
def bodyError : String :=
  "error decoding response body"

end Http

end EventFeed
