import EventFeed.Text.Form

/-
  This file defines the errors of a feed.

  Key definitions include:
    * `FeedError`
    * `FeedError.message`
    * `FeedError.isRecoverable`
    * `FeedError.described`
-/

------------------------------------------------------------
-- Errors
------------------------------------------------------------

namespace EventFeed

/- What can go wrong with a feed. -/
inductive FeedError
  /- the connection failed -/
  | transport (text : String)
  /- the server answered with an unwelcome status -/
  | httpStatus (status : UInt16) (reason : String)
  /- the feed was silent for too long -/
  | timeout (text : String)
  /- the configuration is wrong -/
  | configuration (text : String)
  /- the call does not fit the state of the client -/
  | invalidState (text : String)
deriving DecidableEq, Inhabited, Repr

namespace FeedError

/- The error as a sentence. -/
def message : FeedError → String
  | transport text => "Transport error: " ++ text
  | httpStatus status reason =>
      "HTTP " ++ toString status.toNat ++ ": " ++ reason
  | timeout text => "Keepalive timed out: " ++ text
  | configuration text => "Configuration error: " ++ text
  | invalidState text => "Invalid state: " ++ text

/- Whether a new attempt may help. -/
def isRecoverable : FeedError → Bool
  | transport _ => true
  | httpStatus _ _ => true
  | timeout _ => true
  | configuration _ => false
  | invalidState _ => false

/- The error as a described value. -/
def described : FeedError → String
  | transport text =>
      Text.Form.tuple "Transport" [Text.quoted text]
  | httpStatus status reason =>
      Text.Form.named "HttpStatus"
        [("status", toString status.toNat),
          ("reason", Text.quoted reason)]
  | timeout text =>
      Text.Form.tuple "Timeout" [Text.quoted text]
  | configuration text =>
      Text.Form.tuple "Configuration" [Text.quoted text]
  | invalidState text =>
      Text.Form.tuple "InvalidState" [Text.quoted text]

end FeedError

end EventFeed
