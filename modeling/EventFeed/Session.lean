import EventFeed.Attempt.Course
import EventFeed.Client.Turn

/-
  This file defines sessions: a client in virtual time, with
  the attempts it makes and the timers it sets.

  Time moves only when it is told to.  All that is due by
  then happens in the order of time, and at one instant in
  the order in which it was set, each with everything that
  it causes.  An attempt begins once the action that
  started it is over, unless it has been retired by then.

  Key definitions include:
    * `Playing`
    * `Session`
    * `Session.turn`
    * `Session.play`
    * `Session.Entry`
    * `Session.tick`
    * `Session.settle`
    * `Session.waitFor`
    * `Session.act`
    * `Session.advance`
-/

------------------------------------------------------------
-- Sessions
------------------------------------------------------------

namespace EventFeed

/-
  An attempt that pauses: its number, when the pause began
  and ends, and what follows.
-/
structure Playing where
  attempt : Nat
  generation : UInt64
  since : Time
  wake : Time
  rest : Course
deriving DecidableEq, Inhabited, Repr

/-
  A client in virtual time.  `courses` gives the course of
  every attempt by its number, `begun` the generations of
  those that have begun, and `patience` bounds how much one
  step may cause.  Observations stand last first.
-/
structure Session where
  now : Time
  client : Client
  alive : Bool
  held : Bool
  courses : Nat → Course
  begun : Array UInt64
  playing : Option Playing
  patience : Nat
  seen : List Observation

namespace Session

/- A session at time zero. -/
def new (client : Client) (courses : Nat → Course) : Session where
  now := 0
  client := client
  alive := true
  held := true
  courses := courses
  begun := #[]
  playing := none
  patience := 1000000
  seen := []

/- Note something that shows. -/
def observe (s : Session) (o : Observation) : Session :=
  { s with seen := o :: s.seen }

/- Take out what has been observed, in order. -/
def drain (s : Session) : Session × List Observation :=
  ({ s with seen := [] }, s.seen.reverse)

------------------------------------------------------------
-- Turns
------------------------------------------------------------

/-
  Let a task run with all it causes.  A client whose handle
  was given up ends with the turn.
-/
def turn (s : Session) (task : Task) : Session × Answer :=
  let t : Turn :=
    { now := s.now
      begun := s.begun
      alive := s.alive
      held := s.held
      client := s.client
      agenda := [task]
      answers := []
      seen := s.seen }
  let t := t.finish
  ({ s with
      client := t.client
      alive := t.alive && t.held
      held := t.held
      seen := t.seen },
    (Turn.latest t.answers).1)

/- Whether reports of an attempt are still accepted. -/
def isLive (s : Session) (generation : UInt64) : Bool :=
  s.alive && s.client.link.isLive generation

/- Whether the task of an attempt is still held. -/
def isRunning (s : Session) (generation : UInt64) : Bool :=
  s.alive && s.client.link.transport == some generation

------------------------------------------------------------
-- Attempts
------------------------------------------------------------

/- Play a course until it pauses or ends. -/
def play
    (s : Session)
    (attempt : Nat)
    (generation : UInt64) :
    Course → Session
  | [] => { s with playing := none }
  | .report r :: rest =>
      play (s.turn (.act (.report attempt r))).1 attempt
        generation rest
  | .remark r :: rest =>
      play (s.observe (.remark r)) attempt generation rest
  | .check r :: rest =>
      if s.isLive generation then
        play s attempt generation rest
      else
        let s := { s with playing := none }
        match r with
        | some remark => s.observe (.remark remark)
        | none => s
  | .wait span :: rest =>
      { s with
        playing :=
          if s.isRunning generation then
            some
              ⟨attempt, generation, s.now, s.now + span, rest⟩
          else
            none }
  | .hold :: _ => { s with playing := none }

/-
  The attempt that has been started but has not begun: any
  but the last of those that have.
-/
def waiting? (s : Session) : Option UInt64 :=
  if s.alive then
    s.client.link.transport.filter fun g =>
      s.begun.back? != some g
  else
    none

/- Let an attempt begin. -/
def begin (s : Session) (generation : UInt64) : Session :=
  let attempt := s.begun.size
  let s := { s with begun := s.begun.push generation }
  (s.observe
      (.began s.client.config.transport.kind
        s.client.config.url)).play
    attempt generation (s.courses attempt)

------------------------------------------------------------
-- Time
------------------------------------------------------------

/- Something that happens at an instant. -/
inductive Due
  | wake (p : Playing)
  | alarm (generation token : UInt64)
  | timer (generation : UInt64)
deriving DecidableEq, Inhabited, Repr

/- Something set at one instant to happen at another. -/
structure Entry where
  due : Time
  since : Time
  what : Due
deriving DecidableEq, Inhabited, Repr

/-
  What is due earlier happens first, and of two things due
  at one instant the one that was set first.
-/
def Entry.precedes (a b : Entry) : Bool :=
  a.due < b.due || (a.due == b.due && a.since < b.since)

/-
  All that is set to happen.  A pause stands before an alarm:
  an attempt that resets the watch goes on to its pause
  before the watch is looked at.
-/
def entries (s : Session) : List Entry :=
  if s.alive then
    (match s.playing with
      | some p =>
          if s.isRunning p.generation then
            [⟨p.wake, p.since, .wake p⟩]
          else
            []
      | none => []) ++
    (match s.client.link.keepalive.due? with
      | some t =>
          [⟨t, t - s.client.link.keepalive.window,
            .alarm s.client.link.generation
              s.client.link.keepalive.token⟩]
      | none => []) ++
    (match s.client.link.timer with
      | some t =>
          [⟨t.due, t.due - s.client.config.reconnectInterval,
            .timer t.generation⟩]
      | none => [])
  else
    []

/- The entry that no other precedes, the first of such. -/
def earliest? : List Entry → Option Entry
  | [] => none
  | e :: rest =>
      match earliest? rest with
      | some f => if f.precedes e then some f else some e
      | none => some e

/- Let something happen that is due. -/
def happen (s : Session) (t : Time) (d : Due) : Session :=
  let s := { s with now := max s.now t }
  match d with
  | .wake p =>
      { s with playing := none }.play p.attempt p.generation
        p.rest
  | .alarm generation token =>
      (s.turn (.fireAlarm generation token)).1
  | .timer generation => (s.turn (.fireTimer generation)).1

/-
  The next thing to happen until an instant: an attempt
  begins, or the earliest timer goes off.
-/
def tick (s : Session) (limit : Time) : Option Session :=
  match s.waiting? with
  | some generation => some (s.begin generation)
  | none =>
      match earliest? s.entries with
      | some e =>
          if e.due ≤ limit then some (s.happen e.due e.what)
          else none
      | none => none

/- Let at most `n` things happen until an instant. -/
def settleFor (limit : Time) : Nat → Session → Session
  | 0, s => s
  | n + 1, s =>
      match s.tick limit with
      | some s' => settleFor limit n s'
      | none => s

/- Let everything happen that is due by an instant. -/
def settle (s : Session) (limit : Time) : Session :=
  let s := settleFor limit s.patience s
  { s with now := max s.now limit }

/-
  Let things happen one by one, at most `n` of them, until
  the test holds or nothing more happens by the limit.
-/
def waitFor
    (test : Session → Bool)
    (limit : Time) : Nat → Session → Session
  | 0, s => s
  | n + 1, s =>
      if test s then s
      else
        match s.tick limit with
        | some s' => waitFor test limit n s'
        | none => s

/- Let time pass. -/
def advance (s : Session) (span : Span) : Session :=
  s.settle (s.now + span)

------------------------------------------------------------
-- Actions
------------------------------------------------------------

mutual

/- Do something from outside, before anything it starts. -/
def perform (s : Session) : Action → Session × Answer
  | .batch actions =>
      let r := performAll s actions
      (r.1, .all r.2)
  | a => s.turn (.act a)

/- Do several things from outside, one after the other. -/
def performAll (s : Session) :
    List Action → Session × List Answer
  | [] => (s, [])
  | a :: rest =>
      let one := perform s a
      let more := performAll one.1 rest
      (more.1, one.2 :: more.2)

end

/- Do something from outside and let it take effect. -/
def act (s : Session) (a : Action) : Session × Answer :=
  let r := s.perform a
  (r.1.settle r.1.now, r.2)

end Session

end EventFeed
