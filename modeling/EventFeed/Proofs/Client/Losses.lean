import EventFeed.Proofs.Client.History

/-
  This file follows a client that loses one attempt after the
  other.

  When nothing speaks against it, every loss is answered by a
  wait and every wait by the next attempt, for as often as one
  likes.  In a row of losses there are as many waits as losses,
  and two teardowns for each: one for the loss, and one for
  the attempt that takes the place of the lost one.

  Key definitions include:
    * `Turn.lossMoves`
    * `Turn.retryMoves`
    * `Turn.lossRow`
    * `Turn.Unheard`
    * `Turn.Losing`

  Key results include:
    * `Turn.unheard_follow`
    * `Turn.Losing.lose`
    * `Turn.Losing.retry`
    * `Turn.losing_follow`
-/

------------------------------------------------------------
-- Calls That Nobody Hears
------------------------------------------------------------

namespace EventFeed

namespace Turn

/- An operation was performed, and its call heard by nobody. -/
structure Unheard (t : Turn) (o : Outcome) (t' : Turn) :
    Prop where
  alive : t'.alive = t.alive
  begun : t'.begun = t.begun
  client : t'.client = o.client
  idle : t'.agenda = []
  milestones :
    t'.milestones = o.milestones.reverse ++ t.milestones

/- An entry comes that leads to an operation with one call. -/
theorem unheard_follow
    {t : Turn}
    {task : Task}
    {o : Outcome}
    {c : Callback}
    {answers : List Answer}
    (hIdle : t.agenda = [])
    (hRun :
      t.run task = { t.take o with answers := answers })
    (hOwed : o.owed = [.call c])
    (hDeaf : o.client.handlers = Registry.empty) :
    t.Unheard o ((t.put task).follow [.step, .step]) := by
  have hPut : t.put task = { t with agenda := [task] } := by
    simp [put, isFree, hIdle]
  have hRest : { t with agenda := [] } = t := by
    rw [← hIdle]
  have hNobody : o.client.handlers.get c.slot = none := by
    rw [hDeaf]
    cases c <;> rfl
  have hFollow :
      (t.put task).follow [.step, .step] =
        { t with
          client := o.client
          answers := answers
          seen :=
            .call c false ::
              ((o.remarks.map Observation.remark).reverse ++
                t.seen) } := by
    rw [hPut]
    show ({ t with agenda := [] }.run task).step = _
    rw [hRest, hRun]
    simp [take, step, run, handCall, hOwed, hIdle, hNobody]
  rw [hFollow]
  refine ⟨rfl, rfl, rfl, hIdle, ?_⟩
  rw [milestones, List.filterMap_cons_none rfl,
    List.filterMap_append, milestones_take]
  rfl

end Turn

/- An end is answered by a wait if there is no ceiling. -/
theorem Client.report_closed_of_unlimited
    {c : Client}
    {generation : UInt64}
    (now : Time)
    (hLive : c.link.isLive generation = true)
    (hPhase : c.link.phase.isActive = true)
    (hAuto : c.config.autoReconnect = true)
    (hNone : c.config.maxAttempts = none) :
    c.report now generation .closed =
      ⟨{ c with link := (c.link.retry c.config now).link },
        [] ++ (c.link.retry c.config now).remarks,
        [.call (.reconnecting (c.link.attempts + 1))]⟩ := by
  have hRecover :
      c.link.recover c.config now =
        c.link.retry c.config now := by
    simp [Link.recover, (Effect.manual_of_isLive hLive).2,
      hPhase, hAuto, hNone]
  rw [report, Effect.takeEnd_eq_recover hLive hPhase, recover,
    hRecover]
  rfl

end EventFeed

------------------------------------------------------------
-- Losses in a Row
------------------------------------------------------------

namespace EventFeed

namespace Turn

/- The attempt of a number begins and is lost. -/
def lossMoves (attempt : Nat) : List Move :=
  [.begin, .act (.report attempt .closed), .step, .step]

/- The interval passes, and the timer of a wait goes off. -/
def retryMoves
    (interval : Span)
    (generation : UInt64) : List Move :=
  [.wait interval, .timer generation, .step, .step]

/- A connect, and so many losses with the attempts after them. -/
def lossRow (interval : Span) : Nat → List Move
  | 0 => [.act .connect, .step]
  | n + 1 =>
      lossRow interval n ++ lossMoves n ++
        retryMoves interval (UInt64.ofNat (2 * n + 2))

/-
  A client that nobody listens to is in the given phase after
  so many losses in a row and so many teardowns.
-/
structure Losing
    (config : Config)
    (stage : Phase)
    (losses torn : Nat)
    (t : Turn) : Prop where
  alive : t.alive = true
  idle : t.agenda = []
  config : t.client.config = config
  deaf : t.client.handlers = Registry.empty
  phase : t.client.link.phase = stage
  manual : t.client.link.manual = false
  generation : t.client.link.generation = UInt64.ofNat torn
  transport :
    stage = .connecting →
      t.client.link.transport = some t.client.link.generation
  begun : t.begun.size = losses
  retries : t.retries = losses
  teardowns : t.teardowns = torn

theorem losing_connect (config : Config) :
    ((fresh config).follow [.act .connect, .step]).Losing config
      .connecting 0 1 where
  alive := rfl
  idle := rfl
  config := rfl
  deaf := rfl
  phase := rfl
  manual := rfl
  generation := rfl
  transport := fun _ => rfl
  begun := rfl
  retries := rfl
  teardowns := rfl

variable {config : Config}
variable {losses torn : Nat}
variable {t : Turn}

namespace Losing

/- The generation after one more teardown. -/
theorem generation_succ
    {stage : Phase}
    (hLosing : t.Losing config stage losses torn) :
    t.client.link.generation + 1 = UInt64.ofNat (torn + 1) := by
  rw [hLosing.generation, UInt64.ofNat_add]
  rfl

/- The attempt begins whose task is held. -/
theorem beginAttempt_eq
    (hLosing : t.Losing config .connecting losses torn) :
    t.beginAttempt =
      { t with
        begun := t.begun.push t.client.link.generation
        seen :=
          .began t.client.config.transport.kind
            t.client.config.url :: t.seen } := by
  simp [beginAttempt, hLosing.transport rfl, hLosing.alive]

/- What an attempt reports that begins is taken. -/
theorem run_report
    (hLosing : t.Losing config .connecting losses torn)
    (r : Report) :
    t.beginAttempt.run (.act (.report losses r)) =
      { t.beginAttempt.take
          (t.client.report t.now t.client.link.generation r) with
        answers := .done :: t.answers } := by
  have hFound :
      (t.begun.push t.client.link.generation)[losses]? =
        some t.client.link.generation := by
    rw [← hLosing.begun]
    exact Array.getElem?_push_size
  rw [hLosing.beginAttempt_eq]
  simp only [run, act, withAttempt, hFound, hLosing.alive,
    if_true]
  rfl

/- The attempt is lost, and a wait begins. -/
theorem lose
    (hLosing : t.Losing config .connecting losses torn)
    (hAuto : config.autoReconnect = true)
    (hNone : config.maxAttempts = none) :
    (t.follow (lossMoves losses)).Losing config .reconnecting
      (losses + 1) (torn + 1) := by
  have hNext := hLosing.generation_succ
  have hBegin := hLosing.beginAttempt_eq
  have hRun := hLosing.run_report .closed
  rcases hLosing with
    ⟨hAlive, hIdle, rfl, hDeaf, hPhase, hManual, -, -, hBegun,
      hRetries, hTeardowns⟩
  have hLive :
      t.client.link.isLive t.client.link.generation = true := by
    simp [Link.isLive, hManual]
  have hActive : t.client.link.phase.isActive = true := by
    rw [hPhase]
    rfl
  rw [Client.report_closed_of_unlimited t.now hLive hActive hAuto
    hNone] at hRun
  have hUnheard :
      t.beginAttempt.Unheard _ (t.follow (lossMoves losses)) :=
    unheard_follow (by rw [hBegin]; exact hIdle) hRun rfl hDeaf
  have hMilestones :
      (t.follow (lossMoves losses)).milestones =
        .waiting t.client.config.reconnectInterval
          (t.client.link.attempts + 1) :: t.milestones := by
    rw [hUnheard.milestones,
      Outcome.milestones_retry t.now .none, hBegin]
    rfl
  constructor
  case alive =>
    rw [hUnheard.alive, hBegin]
    exact hAlive
  case idle =>
    exact hUnheard.idle
  case config =>
    rw [hUnheard.client]
  case deaf =>
    rw [hUnheard.client]
    exact hDeaf
  case phase =>
    rw [hUnheard.client]
    rfl
  case manual =>
    rw [hUnheard.client]
    exact hManual
  case generation =>
    rw [hUnheard.client]
    exact hNext
  case transport =>
    simp
  case begun =>
    rw [hUnheard.begun, hBegin, Array.size_push, hBegun]
  case retries =>
    rw [Turn.retries, hMilestones]
    exact congrArg (· + 1) hRetries
  case teardowns =>
    rw [Turn.teardowns, hMilestones, List.countP_cons_of_pos rfl]
    exact congrArg (· + 1) hTeardowns

/- The wait ends, and the next attempt starts. -/
theorem retry
    (hLosing : t.Losing config .reconnecting losses torn)
    (interval : Span) :
    (t.follow (retryMoves interval (UInt64.ofNat torn))).Losing
      config .connecting losses (torn + 1) := by
  have hNext := hLosing.generation_succ
  rcases hLosing with
    ⟨hAlive, hIdle, rfl, hDeaf, hPhase, hManual, hGeneration,
      -, hBegun, hRetries, hTeardowns⟩
  have hCounts :
      t.client.isResumedBy (UInt64.ofNat torn) = true := by
    simp [Client.isResumedBy, hManual, hPhase, hGeneration]
  have hRun :
      { t with now := t.now + interval }.run
          (.fireTimer (UInt64.ofNat torn)) =
        { { t with now := t.now + interval }.take
            (t.client.fireTimer (t.now + interval)
              (UInt64.ofNat torn)) with
          answers := t.answers } :=
    rfl
  rw [Client.fireTimer_of_isResumedBy _ hCounts] at hRun
  have hFollow :
      t.follow (retryMoves interval (UInt64.ofNat torn)) =
        ({ t with now := t.now + interval }.put
          (.fireTimer (UInt64.ofNat torn))).follow
            [.step, .step] := by
    simp [retryMoves, move, hAlive]
  have hUnheard :=
    unheard_follow (t := { t with now := t.now + interval })
      hIdle hRun rfl hDeaf
  rw [← hFollow] at hUnheard
  have hMilestones :
      (t.follow
          (retryMoves interval (UInt64.ofNat torn))).milestones =
        .starting t.client.config.transport.kind
          (t.client.link.generation + 1) :: t.milestones := by
    rw [hUnheard.milestones, Outcome.milestones_restart]
    rfl
  constructor
  case alive =>
    rw [hUnheard.alive]
    exact hAlive
  case idle =>
    exact hUnheard.idle
  case config =>
    rw [hUnheard.client]
    rfl
  case deaf =>
    rw [hUnheard.client]
    exact hDeaf
  case phase =>
    rw [hUnheard.client]
    rfl
  case manual =>
    rw [hUnheard.client]
    rfl
  case generation =>
    rw [hUnheard.client]
    exact hNext
  case transport =>
    intro _
    rw [hUnheard.client]
    rfl
  case begun =>
    rw [hUnheard.begun]
    exact hBegun
  case retries =>
    rw [Turn.retries, hMilestones]
    exact hRetries
  case teardowns =>
    rw [Turn.teardowns, hMilestones, List.countP_cons_of_pos rfl]
    exact congrArg (· + 1) hTeardowns

end Losing

/- A row of losses goes on for as often as one likes. -/
theorem losing_follow
    (config : Config)
    (hAuto : config.autoReconnect = true)
    (hNone : config.maxAttempts = none)
    (interval : Span)
    (n : Nat) :
    ((fresh config).follow (lossRow interval n)).Losing config
      .connecting n (2 * n + 1) := by
  induction n with
  | zero => exact losing_connect config
  | succ n ih =>
      rw [lossRow, follow_append, follow_append]
      exact (ih.lose hAuto hNone).retry interval

/- After one more loss the client waits. -/
theorem losing_follow_lossMoves
    (config : Config)
    (hAuto : config.autoReconnect = true)
    (hNone : config.maxAttempts = none)
    (interval : Span)
    (n : Nat) :
    ((fresh config).follow
        (lossRow interval n ++ lossMoves n)).Losing config
      .reconnecting (n + 1) (2 * n + 2) := by
  rw [follow_append]
  have hLosing := losing_follow config hAuto hNone interval n
  exact hLosing.lose hAuto hNone

end Turn

end EventFeed
