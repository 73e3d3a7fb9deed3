import EventFeed.Client.Keepalive
import EventFeed.Client.Remark
import EventFeed.Config

/-
  This file defines the link of a client: everything about
  its connection that changes, and the changes themselves.

  Every attempt carries the generation it was started in.
  Any teardown moves to the next generation, so what an old
  attempt or an old timer still reports can be told apart.

  Key definitions include:
    * `Link`
    * `Notice`
    * `Link.isLive`
    * `Link.enter`
    * `Link.retire`
    * `Link.start`
    * `Link.shut`
    * `Link.openUp`
    * `Link.recover`
-/

------------------------------------------------------------
-- Link
------------------------------------------------------------

namespace EventFeed

/- A pending reconnect: when it is due, and its generation. -/
structure ReconnectTimer where
  due : Time
  generation : UInt64
deriving DecidableEq, Inhabited, Repr

/-
  The state of a connection.  `published` is the phase as
  others may read it, `transport` the generation of the
  attempt whose task is held, and `manual` says that the last
  word was a disconnect.
-/
structure Link where
  phase : Phase
  published : Phase
  attempts : UInt32
  generation : UInt64
  manual : Bool
  transport : Option UInt64
  timer : Option ReconnectTimer
  keepalive : Keepalive
  startedAt : Option Time
  openedAt : Option Time
deriving DecidableEq, Inhabited, Repr

/- News of the connection that its handlers are owed. -/
inductive Notice
  | opened
  | reconnecting (attempt : UInt32)
  | reconnected (attempt : UInt32)
  | closed
deriving DecidableEq, Inhabited, Repr

/- A notice as a call. -/
def Notice.callback : Notice → Callback
  | opened => .opened
  | reconnecting n => .reconnecting n
  | reconnected n => .reconnected n
  | closed => .closed

namespace Link

/- The link of a new client. -/
def new (config : Config) : Link where
  phase := .idle
  published := .idle
  attempts := 0
  generation := 0
  manual := false
  transport := none
  timer := none
  keepalive := Keepalive.new config.pingTimeout
  startedAt := none
  openedAt := none

/-
  Whether reports from the attempt of a generation are
  accepted.
-/
def isLive (l : Link) (generation : UInt64) : Bool :=
  l.generation == generation && !l.manual

/- How long the connection has been open. -/
def openFor (l : Link) (now : Time) : Span :=
  match l.phase, l.openedAt with
  | .opened, some t => now - t
  | _, _ => 0

/- Enter a phase and publish it. -/
def enter (l : Link) (next : Phase) : Link :=
  { l with phase := next, published := next }

/- The remark on entering a phase. -/
def enterRemarks (l : Link) (next : Phase) : List Remark :=
  if l.phase = next then [] else [.changed l.phase next]

------------------------------------------------------------
-- Teardown and Start
------------------------------------------------------------

/-
  Retire the current attempt: drop its task, stop the watch
  and move to the next generation.
-/
def retire (l : Link) : Link :=
  { l with
    transport := none
    keepalive := l.keepalive.stop
    generation := l.generation + 1
    openedAt := none }

/- Start an attempt in a fresh generation. -/
def start
    (config : Config)
    (now : Time)
    (l : Link) : Link × List Remark :=
  let fresh := (retire l).enter .connecting
  ({ fresh with
      manual := false
      startedAt := some now
      transport := some fresh.generation },
    l.enterRemarks .connecting ++
      [.starting config.transport.kind fresh.generation])

/-
  Let go of the connection for good: nothing pending
  survives, and nothing that an attempt still reports counts.
-/
def shut (l : Link) : Link × List Remark :=
  ({ (retire l).enter .closed with
      manual := true
      timer := none
      startedAt := none },
    l.enterRemarks .closed)

------------------------------------------------------------
-- Opening
------------------------------------------------------------

/- Start a fresh window of silence. -/
def arm (l : Link) (now : Time) : Link :=
  { l with keepalive := l.keepalive.reset now }

/- The time since the current attempt was started. -/
def elapsed (l : Link) (now : Time) : Span :=
  match l.startedAt with
  | some t => now - t
  | none => 0

/- The first good sign of an attempt opens the connection. -/
def openUp
    (config : Config)
    (now : Time)
    (l : Link) : Link × List Remark :=
  (arm
      { l.enter .opened with
        attempts := 0
        openedAt := some now }
      now,
    l.enterRemarks .opened ++
      [.connected config.url (l.elapsed now)])

------------------------------------------------------------
-- Recovery
------------------------------------------------------------

/- What a failure made of a link. -/
structure Recovery where
  link : Link
  remarks : List Remark
  notice : Option Notice
deriving DecidableEq, Inhabited, Repr

/- Retire the attempt and close, with a remark on why. -/
def giveUp (l : Link) (why : Remark) : Recovery :=
  ⟨(retire l).enter .closed,
    why :: l.enterRemarks .closed,
    some .closed⟩

/- Retire the attempt and wait for the next one. -/
def retry
    (config : Config)
    (now : Time)
    (l : Link) : Recovery :=
  let waiting := (retire l).enter .reconnecting
  let attempt := l.attempts + 1
  ⟨{ waiting with
      attempts := attempt
      timer :=
        some ⟨now + config.reconnectInterval,
          waiting.generation⟩ },
    l.enterRemarks .reconnecting ++
      [.waiting config.reconnectInterval attempt],
    some (.reconnecting attempt)⟩

/-
  The one answer to every failure.  A link that is neither
  connecting nor open has nothing to recover.  Otherwise it
  closes if recovery is off or its budget is used up, and
  waits for the next attempt if not.
-/
def recover
    (config : Config)
    (now : Time)
    (l : Link) : Recovery :=
  if l.manual then
    ⟨l, [.ignored], none⟩
  else if !l.phase.isActive then
    ⟨l, [], none⟩
  else if !config.autoReconnect then
    l.giveUp .lost
  else
    match config.maxAttempts with
    | some ceiling =>
        if ceiling ≤ l.attempts then
          l.giveUp (.gaveUp ceiling)
        else
          l.retry config now
    | none => l.retry config now

end Link

end EventFeed
