import EventFeed.Client.Action
import EventFeed.Client.Link
import EventFeed.Client.Tally

/-
  This file defines clients and the operations on them.

  An operation changes the client at once and leaves duties
  behind: calls that its handlers are owed, and what is left
  to do once they have returned.  Every operation checks for
  itself whether the attempt or timer it comes from is still
  current.

  Key definitions include:
    * `Client`
    * `Duty`
    * `Outcome`
    * `Client.connect`
    * `Client.disconnect`
    * `Client.report`
    * `Client.fireTimer`
    * `Client.fireAlarm`
    * `Client.perform`
-/

------------------------------------------------------------
-- Clients
------------------------------------------------------------

namespace EventFeed

/- A client of a feed. -/
structure Client where
  config : Config
  link : Link
  tally : Tally
  handlers : Registry Handler
deriving Inhabited, Repr

/- What an operation leaves to be done after it. -/
inductive Duty
  /- call the handler of a slot -/
  | call (c : Callback)
  /- go on with an event, now that the opening was told -/
  | deliver (generation : UInt64) (e : Event)
  /- count a ping that was delivered -/
  | countPing
deriving Inhabited, Repr

/- What an operation made of a client. -/
structure Outcome where
  client : Client
  remarks : List Remark
  owed : List Duty
deriving Inhabited, Repr

namespace Client

/- A client that was never connected and has no handler. -/
def new (config : Config) : Client where
  config := config
  link := Link.new config
  tally := Tally.zero
  handlers := Registry.empty

/- A new client has the configuration that it was made for. -/
@[simp]
theorem config_new (config : Config) :
    (new config).config = config :=
  rfl

/- The operation changed nothing. -/
def unchanged (c : Client) : Outcome :=
  ⟨c, [], []⟩

/- The operation changed nothing but was remarked on. -/
def remarked (c : Client) (r : Remark) : Outcome :=
  ⟨c, [r], []⟩

/- The duty to pass on a notice, if there is one. -/
def noticeDuty (n : Option Notice) : List Duty :=
  n.toList.map fun notice => .call notice.callback

------------------------------------------------------------
-- Connect and Disconnect
------------------------------------------------------------

/- Why a connect is refused, if it is. -/
def connectRefusal? (c : Client) : Option FeedError :=
  if c.link.phase.acceptsConnect then
    none
  else
    some
      (.invalidState
        ("connect() called while " ++ c.link.phase.name))

/-
  Start connecting, with a fresh budget of reconnects.  Only
  an idle or closed client does.
-/
def connect (c : Client) (now : Time) : Outcome :=
  if c.link.phase.acceptsConnect then
    let started :=
      { c.link with attempts := 0 }.start c.config now
    ⟨{ c with link := started.1 },
      .connecting c.config.url c.config.transport.kind ::
        started.2,
      []⟩
  else
    c.unchanged

/- Close the connection and suppress all recovery. -/
def disconnect (c : Client) : Outcome :=
  let shut := c.link.shut
  ⟨{ c with link := shut.1 },
    shut.2 ++ [.disconnected c.config.url],
    [.call .closed]⟩

------------------------------------------------------------
-- Events
------------------------------------------------------------

/- Count one more of something. -/
def count (c : Client) (k : Tally.Counter) : Client :=
  { c with tally := c.tally.count k }

/- The remark on delivering an event. -/
def deliveryRemark (e : Event) : Remark :=
  match e.delivery with
  | .ping => .ping
  | .message structured => .event e.type structured

/- Count an event and owe it to its handler. -/
def accept (c : Client) (e : Event) : Outcome :=
  ⟨c.count .events,
    [deliveryRemark e],
    .call e.callback ::
      (if e.isPing then [.countPing] else [])⟩

/- Open the connection and owe the news of it. -/
def opening
    (c : Client)
    (now : Time)
    (next : List Duty) : Outcome :=
  let up := c.link.openUp c.config now
  ⟨{ c with link := up.1 }, up.2, .call .opened :: next⟩

/-
  Take an event from an attempt.  While connecting it opens
  the connection first and is looked at again afterwards;
  while open it starts a fresh window of silence.
-/
def takeEvent
    (c : Client)
    (now : Time)
    (generation : UInt64)
    (e : Event) : Outcome :=
  if c.link.isLive generation then
    match c.link.phase with
    | .connecting => c.opening now [.deliver generation e]
    | .opened =>
        accept { c with link := c.link.arm now } e
    | _ => c.unchanged
  else
    c.remarked (.staleEvent e.type)

------------------------------------------------------------
-- Failures
------------------------------------------------------------

/- Take an error from an attempt; the attempt goes on. -/
def takeError
    (c : Client)
    (generation : UInt64)
    (e : FeedError) : Outcome :=
  if c.link.isLive generation then
    ⟨c.count .errors, [.failed e], [.call (.error e)]⟩
  else
    c.remarked (.staleError e)

/- Answer a failure, after the given remarks. -/
def recover
    (c : Client)
    (now : Time)
    (before : List Remark) : Outcome :=
  let r := c.link.recover c.config now
  ⟨{ c with link := r.link },
    before ++ r.remarks,
    noticeDuty r.notice⟩

/- Take the end of an attempt. -/
def takeEnd
    (c : Client)
    (now : Time)
    (generation : UInt64) : Outcome :=
  if c.link.isLive generation then
    recover { c with link := { c.link with transport := none } }
      now []
  else
    c.unchanged

/- Take a report from the attempt of a generation. -/
def report
    (c : Client)
    (now : Time)
    (generation : UInt64) :
    Report → Outcome
  | .opened =>
      if c.link.isLive generation &&
          c.link.phase == .connecting then
        c.opening now []
      else
        c.unchanged
  | .event e => c.takeEvent now generation e
  | .error e => c.takeError generation e
  | .closed => c.takeEnd now generation

------------------------------------------------------------
-- Timers
------------------------------------------------------------

/-
  A reconnect timer fires.  It counts only while its own
  reconnect is being waited for.
-/
def fireTimer
    (c : Client)
    (now : Time)
    (generation : UInt64) : Outcome :=
  if c.link.manual || c.link.phase != .reconnecting ||
      c.link.generation != generation then
    c.remarked .staleTimer
  else
    let attempt := c.link.attempts
    let started :=
      { c.link with timer := none }.start c.config now
    ⟨{ c with link := started.1 }.count .reconnects,
      .retrying attempt c.config.url :: started.2,
      [.call (.reconnected attempt)]⟩

/-
  The alarm of the watch goes off.  It counts only while its
  own arming is live on an open connection.
-/
def fireAlarm
    (c : Client)
    (now : Time)
    (generation token : UInt64) : Outcome :=
  let window := c.link.keepalive.window
  if !c.link.keepalive.isCurrent token ||
      c.link.generation != generation ||
      c.link.manual || c.link.phase != .opened then
    ⟨c, [.silent window, .staleSilence], []⟩
  else
    recover
      { c with
        link :=
          { c.link with keepalive := c.link.keepalive.stop } }
      now [.silent window, .timedOut window]

------------------------------------------------------------
-- Duties
------------------------------------------------------------

/-
  Do what is left after a call has returned.  An event that
  opened the connection is delivered only if its attempt is
  still live.
-/
def perform (c : Client) : Duty → Outcome
  | .call _ => c.unchanged
  | .deliver generation e =>
      if c.link.isLive generation then
        c.accept e
      else
        c.unchanged
  | .countPing => ⟨c.count .pings, [], []⟩

------------------------------------------------------------
-- Handlers and Description
------------------------------------------------------------

/- Change the registry of handlers. -/
def withHandlers
    (c : Client)
    (handlers : Registry Handler) : Client :=
  { c with handlers := handlers }

/- The client as a described value. -/
def described (c : Client) : String :=
  Text.Form.named "EventStreamClient"
    [("shared",
      Text.Form.named "Shared"
        [("config", c.config.described),
          ("state", c.link.published.described)])]

/- The handle of an attempt as a described value. -/
def describedAttempt (generation : UInt64) : String :=
  Text.Form.named "TransportSink"
    [("shared", "(Weak)"),
      ("generation", toString generation.toNat)]

end Client

end EventFeed
