import EventFeed.Proofs.Client.Flattening

/-
  This file says that a client works the same whichever
  handlers it has and whatever its credential is.

  A recasting puts other handlers into a client, and of its
  configuration it changes at most what the credential says.
  An operation does to a client that was recast just what it
  does to the client itself: the connection and the counters
  become the same, and so do the remarks and what is owed.

  Key definitions include:
    * `Config.sealed`
    * `Recasting`
    * `Client.recast`
    * `Turn.recast`

  Key results include:
    * `Client.connect_recast`
    * `Client.disconnect_recast`
    * `Client.report_recast`
    * `Client.fireTimer_recast`
    * `Client.fireAlarm_recast`
    * `Client.perform_recast`
    * `Turn.outcome_recast`
-/

------------------------------------------------------------
-- Sealed Configurations
------------------------------------------------------------

namespace EventFeed

namespace Config

/- The configuration without what its credential says. -/
def sealed (c : Config) : Config :=
  { c with credential := c.credential.map fun _ => redacted }

/- What is told of a configuration leaves that out as well. -/
@[simp]
theorem described_sealed (c : Config) :
    c.sealed.described = c.described := by
  unfold described sealed
  rw [Option.map_map]
  rfl

@[simp]
theorem kind_sealed (c : Config) :
    c.sealed.transport.kind = c.transport.kind := by
  unfold transport sealed
  cases c.credential <;> rfl

end Config

------------------------------------------------------------
-- Recastings
------------------------------------------------------------

/- Other handlers, and perhaps another credential. -/
structure Recasting where
  config : Config → Config
  handlers : Registry Handler → Registry Handler
  sealed_config : ∀ c, (config c).sealed = c.sealed

namespace Recasting

variable (f : Recasting)
variable (c : Config)

@[simp]
theorem url_config : (f.config c).url = c.url :=
  (congrArg Config.url (f.sealed_config c) :)

@[simp]
theorem autoReconnect_config :
    (f.config c).autoReconnect = c.autoReconnect :=
  (congrArg Config.autoReconnect (f.sealed_config c) :)

@[simp]
theorem reconnectInterval_config :
    (f.config c).reconnectInterval = c.reconnectInterval :=
  (congrArg Config.reconnectInterval (f.sealed_config c) :)

@[simp]
theorem maxAttempts_config :
    (f.config c).maxAttempts = c.maxAttempts :=
  (congrArg Config.maxAttempts (f.sealed_config c) :)

@[simp]
theorem kind_config :
    (f.config c).transport.kind = c.transport.kind := by
  rw [← Config.kind_sealed, f.sealed_config, Config.kind_sealed]

@[simp]
theorem described_config :
    (f.config c).described = c.described := by
  rw [← Config.described_sealed, f.sealed_config,
    Config.described_sealed]

variable (now : Time)
variable (l : Link)

@[simp]
theorem start_config :
    l.start (f.config c) now = l.start c now := by
  simp only [Link.start, kind_config]

@[simp]
theorem openUp_config :
    l.openUp (f.config c) now = l.openUp c now := by
  simp only [Link.openUp, url_config]

@[simp]
theorem recover_config :
    l.recover (f.config c) now = l.recover c now := by
  simp only [Link.recover, Link.retry, autoReconnect_config,
    maxAttempts_config, reconnectInterval_config]

end Recasting

/- The client with other handlers or another credential. -/
def Client.recast (f : Recasting) (c : Client) : Client where
  config := f.config c.config
  link := c.link
  tally := c.tally
  handlers := f.handlers c.handlers

def Outcome.recast (f : Recasting) (o : Outcome) : Outcome :=
  { o with client := o.client.recast f }

------------------------------------------------------------
-- Operations on Clients That Were Recast
------------------------------------------------------------

namespace Client

variable (f : Recasting)
variable (c : Client)
variable (now : Time)

@[simp]
theorem config_recast :
    (c.recast f).config = f.config c.config :=
  rfl

@[simp]
theorem link_recast : (c.recast f).link = c.link :=
  rfl

theorem described_recast :
    (c.recast f).described = c.described := by
  simp only [described, config_recast, link_recast,
    Recasting.described_config]

theorem connectRefusal?_recast :
    (c.recast f).connectRefusal? = c.connectRefusal? :=
  rfl

theorem connect_recast :
    (c.recast f).connect now = (c.connect now).recast f := by
  simp only [connect, config_recast, link_recast,
    Recasting.start_config, Recasting.url_config,
    Recasting.kind_config]
  split <;> rfl

theorem disconnect_recast :
    (c.recast f).disconnect = c.disconnect.recast f := by
  simp only [disconnect, config_recast, link_recast,
    Recasting.url_config]
  rfl

theorem accept_recast (e : Event) :
    (c.recast f).accept e = (c.accept e).recast f :=
  rfl

theorem opening_recast (next : List Duty) :
    (c.recast f).opening now next =
      (c.opening now next).recast f := by
  simp only [opening, config_recast, link_recast,
    Recasting.openUp_config]
  rfl

theorem recover_recast (before : List Remark) :
    (c.recast f).recover now before =
      (c.recover now before).recast f := by
  simp only [recover, config_recast, link_recast,
    Recasting.recover_config]
  rfl

theorem takeEvent_recast
    (generation : UInt64)
    (e : Event) :
    (c.recast f).takeEvent now generation e =
      (c.takeEvent now generation e).recast f := by
  simp only [takeEvent, link_recast, opening_recast]
  by_cases hLive : c.link.isLive generation = true
  · rw [if_pos hLive, if_pos hLive]
    cases c.link.phase <;> rfl
  · rw [if_neg hLive, if_neg hLive]
    rfl

theorem takeError_recast
    (generation : UInt64)
    (e : FeedError) :
    (c.recast f).takeError generation e =
      (c.takeError generation e).recast f := by
  unfold takeError
  rw [link_recast]
  by_cases hLive : c.link.isLive generation = true
  · rw [if_pos hLive, if_pos hLive]
    rfl
  · rw [if_neg hLive, if_neg hLive]
    rfl

theorem takeEnd_recast (generation : UInt64) :
    (c.recast f).takeEnd now generation =
      (c.takeEnd now generation).recast f := by
  unfold takeEnd
  rw [link_recast]
  by_cases hLive : c.link.isLive generation = true
  · rw [if_pos hLive, if_pos hLive]
    exact
      recover_recast f
        { c with link := { c.link with transport := none } }
        now []
  · rw [if_neg hLive, if_neg hLive]
    rfl

theorem report_recast
    (generation : UInt64)
    (r : Report) :
    (c.recast f).report now generation r =
      (c.report now generation r).recast f := by
  cases r with
  | opened =>
      simp only [report, link_recast, opening_recast]
      by_cases hOpens :
          (c.link.isLive generation &&
            c.link.phase == .connecting) = true
      · rw [if_pos hOpens, if_pos hOpens]
      · rw [if_neg hOpens, if_neg hOpens]
        rfl
  | event e => exact takeEvent_recast f c now generation e
  | error e => exact takeError_recast f c generation e
  | closed => exact takeEnd_recast f c now generation

theorem fireTimer_recast (generation : UInt64) :
    (c.recast f).fireTimer now generation =
      (c.fireTimer now generation).recast f := by
  simp only [fireTimer, config_recast, link_recast,
    Recasting.start_config, Recasting.url_config]
  by_cases hStale :
      (c.link.manual || c.link.phase != .reconnecting ||
        c.link.generation != generation) = true
  · rw [if_pos hStale, if_pos hStale]
    rfl
  · rw [if_neg hStale, if_neg hStale]
    rfl

theorem fireAlarm_recast (generation token : UInt64) :
    (c.recast f).fireAlarm now generation token =
      (c.fireAlarm now generation token).recast f := by
  unfold fireAlarm
  rw [link_recast]
  simp only []
  by_cases hStale :
      (!c.link.keepalive.isCurrent token ||
        c.link.generation != generation ||
        c.link.manual || c.link.phase != .opened) = true
  · rw [if_pos hStale, if_pos hStale]
    rfl
  · rw [if_neg hStale, if_neg hStale]
    exact
      recover_recast f
        { c with
          link :=
            { c.link with keepalive := c.link.keepalive.stop } }
        now
        [.silent c.link.keepalive.window,
          .timedOut c.link.keepalive.window]

theorem perform_recast (d : Duty) :
    (c.recast f).perform d = (c.perform d).recast f := by
  cases d with
  | deliver generation e =>
      unfold perform
      rw [link_recast]
      simp only []
      by_cases hLive : c.link.isLive generation = true
      · rw [if_pos hLive, if_pos hLive]
        exact accept_recast f c e
      · rw [if_neg hLive, if_neg hLive]
        rfl
  | _ => rfl

end Client

------------------------------------------------------------
-- Turns of Clients That Were Recast
------------------------------------------------------------

/- Whether the action is a call of the client. -/
def Action.isOperation : Action → Bool
  | .connect => true
  | .disconnect => true
  | .report _ _ => true
  | .release => true
  | _ => false

/- Whether the entry is a call of the client or a signal. -/
def Task.isOperation : Task → Bool
  | .act a => a.isOperation
  | .fireTimer _ => true
  | .fireAlarm _ _ => true
  | _ => false

namespace Turn

variable (f : Recasting)

/- The turn with its client recast. -/
def recast (t : Turn) : Turn :=
  { t with client := t.client.recast f }

/- A call of the client does the same after a recasting. -/
theorem outcome_recast
    (t : Turn)
    {task : Task}
    (hOperation : task.isOperation = true) :
    (t.recast f).outcome task = (t.outcome task).recast f := by
  cases task with
  | act a =>
      cases a with
      | connect =>
          show
            (if t.held then (t.client.recast f).connect t.now
              else (t.client.recast f).unchanged) =
              Outcome.recast f
                (if t.held then t.client.connect t.now
                  else t.client.unchanged)
          by_cases hHeld : t.held = true
          · rw [if_pos hHeld, if_pos hHeld]
            exact t.client.connect_recast f t.now
          · rw [if_neg hHeld, if_neg hHeld]
            rfl
      | disconnect =>
          show
            (if t.held then (t.client.recast f).disconnect
              else (t.client.recast f).unchanged) =
              Outcome.recast f
                (if t.held then t.client.disconnect
                  else t.client.unchanged)
          by_cases hHeld : t.held = true
          · rw [if_pos hHeld, if_pos hHeld]
            exact t.client.disconnect_recast f
          · rw [if_neg hHeld, if_neg hHeld]
            rfl
      | report attempt r =>
          have hSame :
              (t.recast f).begun[attempt]? = t.begun[attempt]? :=
            rfl
          simp only [outcome, hSame]
          cases t.begun[attempt]? with
          | none => rfl
          | some generation =>
              show
                (if t.alive then
                    (t.client.recast f).report t.now generation r
                  else (t.client.recast f).unchanged) =
                  Outcome.recast f
                    (if t.alive then
                      t.client.report t.now generation r
                    else t.client.unchanged)
              by_cases hAlive : t.alive = true
              · rw [if_pos hAlive, if_pos hAlive]
                exact t.client.report_recast f t.now generation r
              · rw [if_neg hAlive, if_neg hAlive]
                rfl
      | release => rfl
      | _ => contradiction
  | fireTimer generation =>
      exact t.client.fireTimer_recast f t.now generation
  | fireAlarm generation token =>
      exact t.client.fireAlarm_recast f t.now generation token
  | _ => contradiction

/- A call of the client is taken, or gives up the handle. -/
theorem isTaken_or_release
    {task : Task}
    (hOperation : task.isOperation = true) :
    isTaken task = true ∨ task = .act .release := by
  cases task with
  | act a =>
      cases a <;>
        first
          | exact Or.inl rfl
          | exact Or.inr rfl
          | contradiction
  | fireTimer generation => exact Or.inl rfl
  | fireAlarm generation token => exact Or.inl rfl
  | _ => contradiction

end Turn

end EventFeed
