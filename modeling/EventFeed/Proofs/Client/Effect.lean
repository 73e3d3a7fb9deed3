import EventFeed.Client.Turn

/-
  This file says once what a task can make of a client.

  Every operation checks for itself whether what it comes
  from is still current, and does one of a few things.  The
  relation `Effect` lists them with the checks that were
  passed; later proofs read it case by case and never open
  an operation again.

  Key definitions include:
    * `Remark.isStale`
    * `Task.isCall`
    * `Client.isFailedBy`
    * `Effect`

  Key results include:
    * `Effect.of_connect`
    * `Effect.of_report`
    * `Effect.of_fireTimer`
    * `Effect.of_fireAlarm`
    * `Effect.of_perform`
    * `Effect.owed_tail`
-/

------------------------------------------------------------
-- Phases of Links
------------------------------------------------------------

namespace EventFeed

namespace Link

variable (config : Config)
variable (now : Time)
variable (l : Link)

@[simp]
theorem phase_start :
    (l.start config now).1.phase = .connecting :=
  rfl

@[simp]
theorem phase_shut : l.shut.1.phase = .closed :=
  rfl

@[simp]
theorem phase_openUp :
    (l.openUp config now).1.phase = .opened :=
  rfl

@[simp]
theorem phase_giveUp (why : Remark) :
    (l.giveUp why).link.phase = .closed :=
  rfl

@[simp]
theorem phase_retry :
    (l.retry config now).link.phase = .reconnecting :=
  rfl

end Link

end EventFeed

------------------------------------------------------------
-- Answers to a Failure
------------------------------------------------------------

namespace EventFeed

namespace Link

/-
  What a failure makes of an active link depends on nothing
  but what a teardown leaves of it: whether its task was
  dropped or its watch stopped before makes no difference.
-/
theorem recover_congr
    {l l' : Link}
    (config : Config)
    (now : Time)
    (hRetire : l'.retire = l.retire)
    (hManual : l.manual = false)
    (hActive : l.phase.isActive = true) :
    l'.recover config now = l.recover config now := by
  have hPhase : l'.phase = l.phase := by
    show l'.retire.phase = l.retire.phase
    rw [hRetire]
  have hAttempts : l'.attempts = l.attempts := by
    show l'.retire.attempts = l.retire.attempts
    rw [hRetire]
  have hManual' : l'.manual = false := by
    show l'.retire.manual = false
    rw [hRetire]
    exact hManual
  simp [recover, giveUp, retry, enterRemarks, hRetire, hPhase,
    hAttempts, hManual, hManual', hActive]

/-
  Why a link gives up, as it is remarked on: recovery is off,
  or its budget is used up.
-/
inductive EndsWith (config : Config) (l : Link) : Remark → Prop
  | lost (hAuto : config.autoReconnect = false) :
      EndsWith config l .lost
  | gaveUp
      (hAuto : config.autoReconnect = true)
      (ceiling : UInt32)
      (hCeiling : config.maxAttempts = some ceiling)
      (hSpent : ceiling ≤ l.attempts) :
      EndsWith config l (.gaveUp ceiling)

/- An active link gives up or waits for its next attempt. -/
theorem recover_cases
    {l : Link}
    (config : Config)
    (now : Time)
    (hManual : l.manual = false)
    (hActive : l.phase.isActive = true) :
    (∃ why, l.EndsWith config why ∧
        l.recover config now = l.giveUp why) ∨
      (config.autoReconnect = true ∧
        (∀ ceiling, config.maxAttempts = some ceiling →
          l.attempts < ceiling) ∧
        l.recover config now = l.retry config now) := by
  cases hAuto : config.autoReconnect with
  | false =>
      refine Or.inl ⟨.lost, .lost hAuto, ?_⟩
      simp [recover, hManual, hActive, hAuto]
  | true =>
      cases hCeiling : config.maxAttempts with
      | none =>
          refine Or.inr ⟨rfl, by simp, ?_⟩
          simp [recover, hManual, hActive, hAuto, hCeiling]
      | some ceiling =>
          by_cases hSpent : ceiling ≤ l.attempts
          · refine Or.inl
              ⟨.gaveUp ceiling,
                .gaveUp hAuto ceiling hCeiling hSpent, ?_⟩
            simp [recover, hManual, hActive, hAuto, hCeiling,
              hSpent]
          · refine Or.inr ⟨rfl, ?_, ?_⟩
            · intro other hOther
              cases hOther
              exact UInt32.not_le.mp hSpent
            · simp [recover, hManual, hActive, hAuto, hCeiling,
                hSpent]

end Link

end EventFeed

------------------------------------------------------------
-- Effects
------------------------------------------------------------

namespace EventFeed

/- A remark on something that came too late to count. -/
def Remark.isStale : Remark → Bool
  | .staleTimer => true
  | .silent _ => true
  | .staleSilence => true
  | .staleEvent _ => true
  | .staleError _ => true
  | _ => false

/- Whether the entry is a call that is about to be made. -/
def Task.isCall : Task → Bool
  | .owe (.call _) => true
  | _ => false

/-
  Whether an entry brings a failure of the current attempt,
  when attempts of the given generations have begun: the
  attempt ends, or its watch finds it silent.
-/
def Client.isFailedBy
    (c : Client)
    (begun : Array UInt64) :
    Task → Bool
  | .act (.report attempt .closed) =>
      match begun[attempt]? with
      | some generation =>
          c.link.isLive generation && c.link.phase.isActive
      | none => false
  | .fireAlarm generation token =>
      c.link.keepalive.isCurrent token &&
        c.link.generation == generation &&
        !c.link.manual && c.link.phase == .opened
  | _ => false

/- Whether a reconnect timer of the generation counts. -/
def Client.isResumedBy
    (c : Client)
    (generation : UInt64) : Bool :=
  !c.link.manual && c.link.phase == .reconnecting &&
    c.link.generation == generation

/- A timer that counts owes one call and nothing else. -/
theorem Client.fireTimer_of_isResumedBy
    {c : Client}
    {generation : UInt64}
    (now : Time)
    (hCounts : c.isResumedBy generation = true) :
    c.fireTimer now generation =
      ⟨Client.count
          { c with
            link :=
              ({ c.link with timer := none }.start c.config
                now).1 }
          .reconnects,
        .retrying c.link.attempts c.config.url ::
          ({ c.link with timer := none }.start c.config now).2,
        [.call (.reconnected c.link.attempts)]⟩ := by
  have hCurrent :
      (c.link.manual || c.link.phase != .reconnecting ||
        c.link.generation != generation) = false := by
    grind [Client.isResumedBy]
  simp only [Client.fireTimer, hCurrent, Bool.false_eq_true,
    if_false]

/- What is remarked on before a failure is answered. -/
inductive Forewarning : List Remark → Prop
  | none : Forewarning []
  | silence (window : Span) :
      Forewarning [.silent window, .timedOut window]

/-
  What a task makes of a client at an instant, when attempts
  of the given generations have begun.
-/
inductive Effect
    (now : Time)
    (begun : Array UInt64)
    (c : Client) :
    Task → Outcome → Prop
  /- it came too late or found nothing to do -/
  | nothing
      (task : Task)
      (remarks : List Remark)
      (hStale : ∀ r ∈ remarks, r.isStale = true) :
      Effect now begun c task ⟨c, remarks, []⟩
  /- a connect was accepted -/
  | connect
      (hPhase : c.link.phase.acceptsConnect = true) :
      Effect now begun c (.act .connect) (c.connect now)
  /- a disconnect took effect -/
  | disconnect :
      Effect now begun c (.act .disconnect) c.disconnect
  /- the first good sign of an attempt -/
  | opening
      (attempt : Nat)
      (generation : UInt64)
      (r : Report)
      (next : List Duty)
      (hBegun : begun[attempt]? = some generation)
      (hLive : c.link.isLive generation = true)
      (hPhase : c.link.phase = .connecting)
      (hNext : next = [] ∨ ∃ e, next = [.deliver generation e]) :
      Effect now begun c (.act (.report attempt r))
        (c.opening now next)
  /- an event on an open connection -/
  | event
      (attempt : Nat)
      (generation : UInt64)
      (e : Event)
      (hBegun : begun[attempt]? = some generation)
      (hLive : c.link.isLive generation = true)
      (hPhase : c.link.phase = .opened) :
      Effect now begun c (.act (.report attempt (.event e)))
        (Client.accept { c with link := c.link.arm now } e)
  /- an error of the live attempt -/
  | error
      (attempt : Nat)
      (generation : UInt64)
      (e : FeedError)
      (hBegun : begun[attempt]? = some generation)
      (hLive : c.link.isLive generation = true) :
      Effect now begun c (.act (.report attempt (.error e)))
        ⟨c.count .errors, [.failed e], [.call (.error e)]⟩
  /- the end of an attempt with nothing to recover -/
  | detach
      (attempt : Nat)
      (generation : UInt64)
      (hBegun : begun[attempt]? = some generation)
      (hLive : c.link.isLive generation = true)
      (hPhase : c.link.phase.isActive = false) :
      Effect now begun c (.act (.report attempt .closed))
        ⟨{ c with link := { c.link with transport := none } },
          [], []⟩
  /- a failure after which the client gives up -/
  | giveUp
      (task : Task)
      (before : List Remark)
      (why : Remark)
      (hBefore : Forewarning before)
      (hManual : c.link.manual = false)
      (hPhase : c.link.phase.isActive = true)
      (hWhy : c.link.EndsWith c.config why)
      (hFails : c.isFailedBy begun task = true) :
      Effect now begun c task
        ⟨{ c with link := (c.link.giveUp why).link },
          before ++ (c.link.giveUp why).remarks,
          [.call .closed]⟩
  /- a failure after which the client waits -/
  | retry
      (task : Task)
      (before : List Remark)
      (hBefore : Forewarning before)
      (hManual : c.link.manual = false)
      (hPhase : c.link.phase.isActive = true)
      (hAuto : c.config.autoReconnect = true)
      (hBudget :
        ∀ ceiling, c.config.maxAttempts = some ceiling →
          c.link.attempts < ceiling)
      (hFails : c.isFailedBy begun task = true) :
      Effect now begun c task
        ⟨{ c with link := (c.link.retry c.config now).link },
          before ++ (c.link.retry c.config now).remarks,
          [.call (.reconnecting (c.link.attempts + 1))]⟩
  /- the next attempt after a wait -/
  | restart
      (generation : UInt64)
      (hManual : c.link.manual = false)
      (hPhase : c.link.phase = .reconnecting)
      (hCurrent : c.link.generation = generation) :
      Effect now begun c (.fireTimer generation)
        ⟨Client.count
            { c with
              link :=
                ({ c.link with timer := none }.start c.config
                  now).1 }
            .reconnects,
          .retrying c.link.attempts c.config.url ::
            ({ c.link with timer := none }.start c.config
              now).2,
          [.call (.reconnected c.link.attempts)]⟩
  /- the event that opened the connection is delivered -/
  | delivery
      (generation : UInt64)
      (e : Event)
      (hLive : c.link.isLive generation = true) :
      Effect now begun c (.owe (.deliver generation e))
        (c.accept e)
  /- a ping was delivered -/
  | countPing :
      Effect now begun c (.owe .countPing)
        ⟨c.count .pings, [], []⟩

theorem Client.acceptsConnect_of_accepted
    {c : Client}
    (hAccepted : c.connectRefusal? = none) :
    c.link.phase.acceptsConnect = true := by
  unfold Client.connectRefusal? at hAccepted
  split at hAccepted
  · assumption
  · contradiction

/- An accepted connect starts an attempt with a new budget. -/
theorem Client.connect_of_accepted
    {c : Client}
    (now : Time)
    (hPhase : c.link.phase.acceptsConnect = true) :
    c.connect now =
      ⟨{ c with
          link :=
            ({ c.link with attempts := 0 }.start c.config
              now).1 },
        .connecting c.config.url c.config.transport.kind ::
          ({ c.link with attempts := 0 }.start c.config now).2,
        []⟩ := by
  simp only [Client.connect, hPhase, if_true]

namespace Effect

variable {now : Time}
variable {begun : Array UInt64}
variable {c : Client}

/- Something that changes nothing and is not remarked on. -/
theorem unchanged (task : Task) :
    Effect now begun c task c.unchanged :=
  .nothing task [] (by simp)

/- Something that came too late and is remarked on. -/
theorem remarked
    (task : Task)
    {r : Remark}
    (hStale : r.isStale = true) :
    Effect now begun c task (c.remarked r) :=
  .nothing task [r] (by simpa using hStale)

------------------------------------------------------------
-- Operations Have Effects
------------------------------------------------------------

theorem of_connect
    (hAccepted : c.connectRefusal? = none) :
    Effect now begun c (.act .connect) (c.connect now) :=
  .connect (Client.acceptsConnect_of_accepted hAccepted)

/- What a teardown would undo does not change the answer. -/
theorem recover_withLink
    {l : Link}
    (before : List Remark)
    (hRetire : l.retire = c.link.retire)
    (hManual : c.link.manual = false)
    (hPhase : c.link.phase.isActive = true) :
    Client.recover { c with link := l } now before =
      c.recover now before := by
  simp only [Client.recover]
  rw [Link.recover_congr c.config now hRetire hManual hPhase]

/- A live generation means that no disconnect came since. -/
theorem manual_of_isLive
    {l : Link}
    {generation : UInt64}
    (hLive : l.isLive generation = true) :
    l.generation = generation ∧ l.manual = false := by
  simpa [Link.isLive] using hLive

/- A failure is the end of an attempt or an alarm. -/
theorem cases_of_isFailedBy
    {task : Task}
    (hFails : c.isFailedBy begun task = true) :
    (∃ attempt generation,
        task = .act (.report attempt .closed) ∧
          begun[attempt]? = some generation ∧
          c.link.isLive generation = true ∧
          c.link.phase.isActive = true) ∨
      ∃ generation token,
        task = .fireAlarm generation token ∧
          c.link.keepalive.isCurrent token = true ∧
          c.link.generation = generation ∧
          c.link.manual = false ∧
          c.link.phase = .opened := by
  unfold Client.isFailedBy at hFails
  split at hFails
  · next attempt =>
      split at hFails
      · next generation hBegun =>
          rw [Bool.and_eq_true] at hFails
          exact Or.inl ⟨attempt, generation, rfl, hBegun, hFails⟩
      · contradiction
  · next generation token =>
      simp only [Bool.and_eq_true, beq_iff_eq,
        Bool.not_eq_true'] at hFails
      obtain ⟨⟨⟨hToken, hGeneration⟩, hManual⟩, hPhase⟩ := hFails
      exact
        Or.inr
          ⟨generation, token, rfl, hToken, hGeneration, hManual,
            hPhase⟩
  · contradiction

/- What can fail is active, and no disconnect came since. -/
theorem active_of_isFailedBy
    {task : Task}
    (hFails : c.isFailedBy begun task = true) :
    c.link.manual = false ∧ c.link.phase.isActive = true := by
  rcases cases_of_isFailedBy hFails with
    ⟨_, _, _, _, hLive, hPhase⟩ | ⟨_, _, _, _, _, hManual, hPhase⟩
  · exact ⟨(manual_of_isLive hLive).2, hPhase⟩
  · rw [hPhase]
    exact ⟨hManual, rfl⟩

/- A failure is answered in one of two ways. -/
theorem of_recover
    {task : Task}
    {before : List Remark}
    (hBefore : Forewarning before)
    (hFails : c.isFailedBy begun task = true) :
    Effect now begun c task (c.recover now before) := by
  rcases active_of_isFailedBy hFails with ⟨hManual, hPhase⟩
  rcases Link.recover_cases c.config now hManual hPhase with
    ⟨why, hWhy, hEq⟩ | ⟨hAuto, hBudget, hEq⟩
  · rw [Client.recover, hEq]
    exact
      .giveUp task before why hBefore hManual hPhase hWhy hFails
  · rw [Client.recover, hEq]
    exact
      .retry task before hBefore hManual hPhase hAuto hBudget
        hFails

/- The end of an active attempt is a failure like any other. -/
theorem takeEnd_eq_recover
    {generation : UInt64}
    (hLive : c.link.isLive generation = true)
    (hPhase : c.link.phase.isActive = true) :
    c.takeEnd now generation = c.recover now [] := by
  unfold Client.takeEnd
  rw [if_pos hLive]
  exact
    recover_withLink [] rfl (manual_of_isLive hLive).2 hPhase

theorem of_takeEnd
    {attempt : Nat}
    {generation : UInt64}
    (hBegun : begun[attempt]? = some generation) :
    Effect now begun c (.act (.report attempt .closed))
      (c.takeEnd now generation) := by
  by_cases hLive : c.link.isLive generation = true
  · have hManual := (manual_of_isLive hLive).2
    cases hPhase : c.link.phase.isActive with
    | false =>
        have hEffect :
            Effect now begun c (.act (.report attempt .closed))
              ⟨{ c with
                  link := { c.link with transport := none } },
                [], []⟩ :=
          .detach attempt generation hBegun hLive hPhase
        simpa [Client.takeEnd, hLive, Client.recover,
          Link.recover, hManual, hPhase,
          Client.noticeDuty] using hEffect
    | true =>
        rw [takeEnd_eq_recover hLive hPhase]
        refine of_recover .none ?_
        simp [Client.isFailedBy, hBegun, hLive, hPhase]
  · unfold Client.takeEnd
    rw [if_neg hLive]
    exact unchanged _

theorem of_report
    {attempt : Nat}
    {generation : UInt64}
    (hBegun : begun[attempt]? = some generation)
    (r : Report) :
    Effect now begun c (.act (.report attempt r))
      (c.report now generation r) := by
  cases r with
  | opened =>
      simp only [Client.report]
      split
      · next hOpen =>
          rw [Bool.and_eq_true, beq_iff_eq] at hOpen
          exact
            .opening attempt generation .opened [] hBegun
              hOpen.1 hOpen.2 (Or.inl rfl)
      · exact unchanged _
  | event e =>
      simp only [Client.report, Client.takeEvent]
      split
      · next hLive =>
          split
          · next hPhase =>
              exact
                .opening attempt generation (.event e) _ hBegun
                  hLive hPhase (Or.inr ⟨e, rfl⟩)
          · next hPhase =>
              exact
                .event attempt generation e hBegun hLive hPhase
          · exact unchanged _
      · exact remarked _ rfl
  | error e =>
      simp only [Client.report, Client.takeError]
      split
      · next hLive =>
          exact .error attempt generation e hBegun hLive
      · exact remarked _ rfl
  | closed => exact of_takeEnd hBegun

theorem of_fireTimer (generation : UInt64) :
    Effect now begun c (.fireTimer generation)
      (c.fireTimer now generation) := by
  unfold Client.fireTimer
  split
  · exact remarked _ rfl
  · next hCurrent =>
      simp only [Bool.or_eq_true, bne_iff_ne, not_or,
        Bool.not_eq_true, ne_eq, Classical.not_not] at hCurrent
      obtain ⟨⟨hManual, hPhase⟩, hGeneration⟩ := hCurrent
      exact .restart generation hManual hPhase hGeneration

/- An alarm that counts is a failure like any other. -/
theorem fireAlarm_eq_recover
    {generation token : UInt64}
    (hFails :
      c.isFailedBy begun (.fireAlarm generation token) = true) :
    c.fireAlarm now generation token =
      c.recover now
        [.silent c.link.keepalive.window,
          .timedOut c.link.keepalive.window] := by
  have hCurrent :
      (!c.link.keepalive.isCurrent token ||
        c.link.generation != generation ||
        c.link.manual || c.link.phase != .opened) = false := by
    grind [Client.isFailedBy]
  rcases active_of_isFailedBy hFails with ⟨hManual, hPhase⟩
  unfold Client.fireAlarm
  simp only [hCurrent, Bool.false_eq_true, if_false]
  exact
    recover_withLink
      (l := { c.link with keepalive := c.link.keepalive.stop })
      _ rfl hManual hPhase

theorem of_fireAlarm (generation token : UInt64) :
    Effect now begun c (.fireAlarm generation token)
      (c.fireAlarm now generation token) := by
  cases hFails :
      c.isFailedBy begun (.fireAlarm generation token) with
  | true =>
      rw [fireAlarm_eq_recover hFails]
      exact of_recover (.silence _) hFails
  | false =>
      have hLate :
          (!c.link.keepalive.isCurrent token ||
            c.link.generation != generation ||
            c.link.manual || c.link.phase != .opened) =
              true := by
        grind [Client.isFailedBy]
      unfold Client.fireAlarm
      simp only [hLate, if_true]
      exact .nothing _ _ (by simp [Remark.isStale])

theorem of_perform
    {d : Duty}
    (hCall : (Task.owe d).isCall = false) :
    Effect now begun c (.owe d) (c.perform d) := by
  cases d with
  | call callback => simp [Task.isCall] at hCall
  | deliver generation e =>
      simp only [Client.perform]
      split
      · next hLive => exact .delivery generation e hLive
      · exact unchanged _
  | countPing => exact .countPing

------------------------------------------------------------
-- Shape of an Effect
------------------------------------------------------------

variable {task : Task}
variable {o : Outcome}

theorem config_eq
    (hEffect : Effect now begun c task o) :
    o.client.config = c.config := by
  cases hEffect with
  | connect hPhase =>
      rw [Client.connect_of_accepted now hPhase]
  | _ => rfl

/- Nothing but the first thing owed can be a call. -/
theorem owed_tail
    (hEffect : Effect now begun c task o) :
    ∀ d ∈ o.owed.tail, (Task.owe d).isCall = false := by
  cases hEffect with
  | connect hPhase =>
      rw [Client.connect_of_accepted now hPhase]
      simp
  | opening attempt generation r next hBegun hLive hPhase hNext =>
      rcases hNext with rfl | ⟨e, rfl⟩ <;>
        simp [Client.opening, Task.isCall]
  | event attempt generation e hBegun hLive hPhase =>
      simp only [Client.accept, List.tail_cons]
      split <;> simp [Task.isCall]
  | delivery generation e hLive =>
      simp only [Client.accept, List.tail_cons]
      split <;> simp [Task.isCall]
  | _ => simp [Client.disconnect]

end Effect

end EventFeed
