import EventFeed.Client.Registry

/-
  This file defines what can be asked of a client, from
  outside or by one of its handlers.

  A handler is known by what it does when it is called: its
  reactions, one list of actions for each call, and nothing
  once they are used up.

  Key definitions include:
    * `Report`
    * `Query`
    * `Action`
    * `Handler`
    * `Answer`
-/

------------------------------------------------------------
-- Reports and Queries
------------------------------------------------------------

namespace EventFeed

/- What an attempt reports to the client. -/
inductive Report
  /- the stream is established -/
  | opened
  /- a complete event arrived -/
  | event (e : Event)
  /- something failed; the attempt may go on -/
  | error (e : FeedError)
  /- the stream ended or failed for good -/
  | closed
deriving DecidableEq, Inhabited, Repr

/-
  A question that changes nothing.  Attempts are numbered in
  the order in which they began.
-/
inductive Query
  | isLive (attempt : Nat)
  | describeAttempt (attempt : Nat)
  | isRegistered (slot : Slot)
  | describeHandlers
  | describeClient
  | isAlive
deriving DecidableEq, Inhabited, Repr

------------------------------------------------------------
-- Actions
------------------------------------------------------------

/- Something that a program, or a handler of it, does. -/
inductive Action
  /- start connecting -/
  | connect
  /- close for good -/
  | disconnect
  /- report for the attempt of the given number -/
  | report (attempt : Nat) (r : Report)
  /- put a handler into a slot -/
  | register (slot : Slot) (reactions : List (List Action))
  /- empty a slot -/
  | unregister (slot : Slot)
  /- ask a question -/
  | ask (q : Query)
  /- give up the handle on the client -/
  | release
  /- fail while a handler is running -/
  | panic
  /- do several things in a row -/
  | batch (actions : List Action)
  /- do nothing -/
  | idle
deriving Inhabited, Repr

/- A handler, by its reactions to the calls it will get. -/
abbrev Handler :=
  List (List Action)

/- A handler that only listens. -/
def Handler.listener : Handler :=
  []

/- A handler with the same reaction to its first calls. -/
def Handler.repeating
    (times : Nat)
    (actions : List Action) : Handler :=
  List.replicate times actions

------------------------------------------------------------
-- Answers
------------------------------------------------------------

/- What an action comes back with. -/
inductive Answer
  /- nothing to say -/
  | done
  /- a connect was accepted -/
  | accepted
  /- a connect was refused -/
  | refused (e : FeedError)
  /- yes or no -/
  | truth (b : Bool)
  /- a description -/
  | text (s : String)
  /- no attempt of that number has begun -/
  | noAttempt
  /- the handle on the client was given up -/
  | noClient
  /- the answers of a batch -/
  | all (answers : List Answer)
deriving Inhabited, Repr

end EventFeed
