import EventFeed.Attempt.Network
import EventFeed.Json.Printer
import EventFeed.Launch.EnvFile
import EventFeed.Launch.Files
import EventFeed.Launch.LogFilter
import EventFeed.Launch.RunPlan

/-
  This file defines the notification listener: a program that
  loads its settings, follows the feed and logs what arrives
  until it is told to stop.

  Key definitions include:
    * `Listener.callLines`
    * `Listener.linesOf`
    * `Listener.surroundings`
    * `Listener.prepare`
    * `Listener.start`
    * `Listener.follow`
    * `Listener.stop`
    * `Listener.Transcript`
    * `Listener.replay`
    * `Listener.run`
-/

------------------------------------------------------------
-- Lines
------------------------------------------------------------

namespace EventFeed

namespace Listener

/- A line that the listener writes itself. -/
def line (level : Level) (message : String) : LogLine :=
  ⟨level, .listener, message⟩

/- A line that tells what came with an event. -/
def eventLine (e : Event) (text : String) : LogLine :=
  line .info ("[" ++ e.type ++ "] " ++ text)

/- What the handlers of the listener log. -/
def callLines : Callback → List LogLine
  | .opened => [line .info "Stream open"]
  | .message (.structured (.array items)) e =>
      eventLine e
          (toString items.length ++ " notification(s)") ::
        items.map fun v => line .info ("  " ++ v.compact)
  | .message (.structured v) e => [eventLine e v.compact]
  | .message (.raw text) e => [eventLine e text]
  | .ping data => [line .debug ("Ping " ++ data)]
  | .error e => [line .warn ("Stream error: " ++ e.message)]
  | .reconnecting n =>
      [line .info
        ("Reconnecting (attempt " ++ toString n.toNat ++ ")")]
  | .reconnected n =>
      [line .info
        ("Reconnect attempt " ++ toString n.toNat ++
          " dispatched")]
  | .closed => [line .info "Stream closed"]

/- What an observation leaves in the log. -/
def linesOf : Observation → List LogLine
  | .remark r => [r.line]
  | .call c true => callLines c
  | _ => []

/- The sum of what happened. -/
def stats (t : Tally) : String :=
  "Received " ++ toString t.events.toNat ++ " events (" ++
    toString t.pings.toNat ++ " pings), " ++
    toString t.errors.toNat ++ " errors, " ++
    toString t.reconnects.toNat ++ " reconnects"

/- The plan of the listener. -/
def plan : RunPlan :=
  (RunPlan.new "Notification Listener").withStatusEvery 30

------------------------------------------------------------
-- Preparation
------------------------------------------------------------

/- Make a client from settings, with what is logged. -/
def configure
    (s : Settings) :
    List LogLine × Except FeedError Client :=
  match s.draft.build true with
  | .error e => ([], .error e.error)
  | .ok c =>
      ([line .info
        ("Client configured: " ++ c.config.described)], .ok c)

/- The environment with what the file beside adds to it. -/
def surroundings
    (env : Environment)
    (read : String → Except FileFault ByteArray) :
    Environment :=
  match (read ".env").bind Settings.textOf with
  | .ok text => EnvFile.extend env text
  | .error _ => env

/- Load the settings and make the client. -/
def prepare
    (diagnose : String → String)
    (args : List String)
    (env : Environment)
    (read : String → Except FileFault ByteArray) :
    List LogLine × Except FeedError Client :=
  let path := ConfigSource.stream.resolve args env
  match
    Settings.load diagnose path (read path)
      (env Settings.tokenVariable) with
  | .error e => ([], .error e)
  | .ok s =>
      let made := configure s
      (s.loadedLine path :: made.1, made.2)

------------------------------------------------------------
-- Following
------------------------------------------------------------

/- Connect, with handlers that log. -/
def start
    (c : Client)
    (outcomes : Nat → Http.Outcome) : Session :=
  let c := c.withHandlers (Registry.filled Handler.listener)
  ((Session.overNetwork c outcomes).perform .connect).1

/- Take the lines out of a session. -/
def drain (s : Session) : Session × List LogLine :=
  let d := s.drain
  (d.1, d.2.flatMap linesOf)

/-
  Follow the feed until a line passes the test, and to the
  end of what it causes, with the lines so far (last first).
  Nothing comes of it when no such line is written by the
  deadline.
-/
def followFrom
    (test : LogLine → Bool)
    (deadline : Time)
    (before : List LogLine) :
    Nat → Session → Option (Session × List LogLine)
  | 0, _ => none
  | n + 1, s =>
      let d := drain s
      let lines := d.2.reverse ++ before
      if d.2.any test then
        let e := drain (d.1.settle d.1.now)
        some (e.1, lines.reverse ++ e.2)
      else
        match d.1.tick deadline with
        | some s' => followFrom test deadline lines n s'
        | none => none

/- Follow the feed from the start. -/
def follow
    (test : LogLine → Bool)
    (deadline : Time)
    (s : Session) : Option (Session × List LogLine) :=
  followFrom test deadline [] (4 * deadline + 4) s

/- Stop on request, with the lines of the end. -/
def stop (s : Session) : Session × List LogLine :=
  let d := drain (s.act .disconnect).1
  (d.1,
    ⟨.info, .runner, "Shutdown signal received"⟩ :: d.2)

------------------------------------------------------------
-- Runs
------------------------------------------------------------

/- What a run leaves behind, and what it has asked for. -/
structure Transcript where
  lines : List LogLine
  failure : Option FeedError
  requests : List Http.Request
deriving DecidableEq, Inhabited, Repr

namespace Transcript

/- The exit code. -/
def code (t : Transcript) : Nat :=
  if t.failure.isSome then 1 else 0

/- What is written besides the log. -/
def complaint (t : Transcript) : String :=
  match t.failure with
  | some e => "Error: " ++ e.message ++ "\n"
  | none => ""

end Transcript

/-
  The run of a client that is told to stop once a line passes
  the test.
-/
def attend
    (c : Client)
    (outcomes : Nat → Http.Outcome)
    (test : LogLine → Bool)
    (deadline : Time) :
    Option (Session × List LogLine) :=
  (follow test deadline (start c outcomes)).map fun followed =>
    let ended := stop followed.1
    (ended.1,
      plan.execute (followed.2 ++ ended.2)
        (some (stats ended.1.client.tally)))

/-
  The run of a client that gets a reply and is told to stop
  as soon as the reply is read.
-/
def replay (c : Client) (r : Http.Reply) : List LogLine :=
  let begun := start c fun _ => .answered r
  let read := drain (begun.settle begun.now)
  let ended := stop read.1
  plan.execute (read.2 ++ ended.2)
    (some (stats ended.1.client.tally))

/- Whether a text stands somewhere within another one. -/
def occurs (text : List Char) : List Char → Bool
  | [] => text.isEmpty
  | c :: rest => text.isPrefixOf (c :: rest) || occurs text rest

/-
  A whole run.  It is told to stop once a line that is shown
  holds the text; without such a text it is not told so.
-/
def run
    (diagnose : String → String)
    (args : List String)
    (env : Environment)
    (read : String → Except FileFault ByteArray)
    (outcomes : Nat → Http.Outcome)
    (text : Option String)
    (deadline : Time) : Option Transcript :=
  let env := surroundings env read
  let rules := LogFilter.ofSetting (env LogFilter.variableName)
  let shown := fun l => LogFilter.admits rules l
  let test := fun l =>
    match text with
    | some t => shown l && occurs t.toList l.text.toList
    | none => false
  let prepared := prepare diagnose args env read
  match prepared.2 with
  | .error e => some ⟨prepared.1.filter shown, some e, []⟩
  | .ok c =>
      (attend c outcomes test deadline).map fun r =>
        ⟨(prepared.1 ++ r.2).filter shown, none,
          r.1.requests outcomes⟩

end Listener

end EventFeed
