import EventFeed.Proofs.Client.Clock
import EventFeed.Proofs.Client.Lateness
import EventFeed.Proofs.Client.Protocol
import EventFeed.Proofs.Client.Suppression

/-
  This file proves that a client waits for its next attempt
  for exactly its interval.

  Every notice of a reconnect stands with a timer that is due
  one interval later.  While the client waits nothing moves
  that timer, and only two things end the wait: the timer,
  and a disconnect.  After a disconnect a reconnect can only
  come of a later notice, one interval after that; the timer
  of the old one belongs to a generation of the past.

  Key definitions include:
    * `Sign.isLifecycle`
    * `Pace`
    * `Turn.Waiting`
    * `Turn.Resumed`
    * `Turn.Scheduled`
    * `Turn.Delayed`

  Key results include:
    * `Effect.pace`
    * `Turn.waiting_or_ended`
    * `Turn.scheduled_follow`
    * `Turn.delayed_follow`
-/

------------------------------------------------------------
-- Pace of Operations
------------------------------------------------------------

namespace EventFeed

/-
  Whether the sign tells of the course of a connection, and
  not only of what is said on it.
-/
def Sign.isLifecycle : Sign → Bool
  | .call (.message _ _) => false
  | .call (.ping _) => false
  | .call (.error _) => false
  | _ => true

theorem Sign.isLifecycle_callback (e : Event) :
    (call e.callback).isLifecycle = false := by
  unfold Event.callback
  split <;> rfl

/-
  What an operation means to a client that waits for its next
  attempt, or is about to.
-/
inductive Pace
    (now : Time)
    (c : Client) : Task → Outcome → Prop
  /- nothing -/
  | quiet
      {task : Task}
      {o : Outcome}
      (hPhase : o.client.link.phase = c.link.phase)
      (hAttempts : o.client.link.attempts = c.link.attempts)
      (hTimer : o.client.link.timer = c.link.timer)
      (hGeneration :
        o.client.link.generation = c.link.generation)
      (hReconnects :
        o.client.tally.reconnects = c.tally.reconnects)
      (hStarts : o.milestones.countP Remark.isStart = 0)
      (hSigns : ∀ sign ∈ o.signs, sign.isLifecycle = false) :
      Pace now c task o
  /- the wait begins -/
  | wait
      {task : Task}
      {o : Outcome}
      (hPhase : c.link.phase.isActive = true)
      (hTimer :
        o.client.link.timer =
          some
            ⟨now + c.config.reconnectInterval,
              o.client.link.generation⟩)
      (hStarts : o.milestones.countP Remark.isStart = 0)
      (hSigns :
        o.signs =
          [.call (.reconnecting o.client.link.attempts)]) :
      Pace now c task o
  /- the wait is over -/
  | resume
      {generation : UInt64}
      {o : Outcome}
      (hCounts : c.isResumedBy generation = true)
      (hLater : o.client.link.phase = .connecting)
      (hTally : o.client.tally = c.tally.count .reconnects)
      (hStarts : o.milestones.countP Remark.isStart = 1)
      (hSigns :
        o.signs = [.call (.reconnected c.link.attempts)]) :
      Pace now c (.fireTimer generation) o
  /- the connection moves on in another way -/
  | turn
      {task : Task}
      {o : Outcome}
      (sign : Sign)
      (hPhase :
        c.link.phase = .reconnecting → task = .act .disconnect)
      (hLater : o.client.link.phase ≠ .reconnecting)
      (hStarts :
        o.milestones.countP Remark.isStart =
          [sign].countP Stage.startsAttempt)
      (hSigns : o.signs = [sign])
      (hSign : sign.isLifecycle = true)
      (hOther :
        ∀ k,
          sign ≠ .call (.reconnecting k) ∧
            sign ≠ .call (.reconnected k)) :
      Pace now c task o

/- Every operation keeps pace in one of these ways. -/
theorem Effect.pace
    {now : Time}
    {begun : Array UInt64}
    {c : Client}
    {task : Task}
    {o : Outcome}
    (hEffect : Effect now begun c task o) :
    Pace now c task o := by
  cases hEffect with
  | nothing _ remarks hStale =>
      have hSilent := Remark.silent_of_isStale hStale
      refine .quiet rfl rfl rfl rfl rfl ?_ ?_
      · rw [Outcome.milestones, hSilent.1]
        rfl
      · rw [Outcome.signs, hSilent.2]
        simp
  | connect hPhase =>
      have hSigns := Outcome.signs_connect now hPhase
      have hMilestones := Outcome.milestones_connect now hPhase
      refine
        .turn .connect ?_ ?_ ?_ hSigns rfl (by simp)
      · intro hWaits
        simp [hWaits, Phase.acceptsConnect] at hPhase
      · rw [Client.connect_of_accepted now hPhase]
        simp
      · rw [hMilestones]
        rfl
  | disconnect =>
      refine
        .turn (.call .closed) (fun _ => rfl)
          (by simp [Client.disconnect]) ?_
          (Outcome.signs_disconnect c) rfl (by simp)
      rw [Outcome.milestones_disconnect]
      rfl
  | opening attempt generation r next hBegun hLive hPhase hNext =>
      have hSigns :
          (c.opening now next).signs = [.call .opened] := by
        rw [Outcome.signs_opening]
        rcases hNext with rfl | ⟨e, rfl⟩ <;> rfl
      refine
        .turn (.call .opened) (by simp [hPhase])
          (by simp [Client.opening]) ?_ hSigns rfl (by simp)
      rw [Outcome.milestones_opening]
      rfl
  | event attempt generation e =>
      refine .quiet rfl rfl rfl rfl rfl ?_ ?_
      · rw [Outcome.milestones_accept]
        rfl
      · rw [Outcome.signs_accept]
        simp [Sign.isLifecycle_callback]
  | delivery generation e =>
      refine .quiet rfl rfl rfl rfl rfl ?_ ?_
      · rw [Outcome.milestones_accept]
        rfl
      · rw [Outcome.signs_accept]
        simp [Sign.isLifecycle_callback]
  | error attempt generation e =>
      refine .quiet rfl rfl rfl rfl rfl rfl ?_
      simp [Outcome.signs, Remark.sign?, Duty.sign?,
        Sign.isLifecycle]
  | detach =>
      exact
        .quiet rfl rfl rfl rfl rfl rfl (by simp [Outcome.signs])
  | giveUp _ before why hBefore hManual hPhase hWhy =>
      refine
        .turn (.call .closed) ?_ (by simp) ?_
          (Outcome.signs_giveUp hBefore hWhy) rfl (by simp)
      · intro hWaits
        simp [hWaits, Phase.isActive] at hPhase
      · rw [Outcome.milestones_giveUp hBefore hWhy]
        cases hWhy <;> rfl
  | retry _ before hBefore hManual hPhase =>
      refine
        .wait hPhase rfl ?_ (Outcome.signs_retry now hBefore _)
      rw [Outcome.milestones_retry now hBefore]
      rfl
  | restart generation hManual hPhase hCurrent =>
      refine
        .resume ?_ rfl rfl ?_ (Outcome.signs_restart now _ _)
      · simp [Client.isResumedBy, hManual, hPhase, hCurrent]
      · rw [Outcome.milestones_restart]
        rfl
  | countPing =>
      exact
        .quiet rfl rfl rfl rfl rfl rfl (by simp [Outcome.signs])

end EventFeed

------------------------------------------------------------
-- Ends of a Wait
------------------------------------------------------------

namespace EventFeed

namespace Turn

/-
  One attempt was started.  This was counted, and the notice
  of it comes before anything else.
-/
structure Resumed (k : UInt32) (t t' : Turn) : Prop where
  phase : t'.client.link.phase = .connecting
  published : t'.client.link.published = .connecting
  starts : t'.starts = t.starts + 1
  tally : t'.client.tally = t.client.tally.count .reconnects
  story : t'.story = t.story ++ [.call (.reconnected k)]
  first :
    ∃ rest, t'.agenda = .owe (.call (.reconnected k)) :: rest
  now : t'.now = t.now

/- The timer of the generation goes off and is seen to. -/
def timerMoves (generation : UInt64) : List Move :=
  [.timer generation, .step]

/- How a wait can end. -/
inductive WaitOver
    (k : UInt32)
    (due : Time)
    (t : Turn) : Move → Prop
  /- the timer goes off, right when it is due -/
  | resumed
      (generation : UInt64)
      (rest : List Task)
      (hAgenda : t.agenda = .fireTimer generation :: rest)
      (hNow : t.now = due)
      (hResumed : t.Resumed k t.step) :
      WaitOver k due t .step
  /- a disconnect takes effect -/
  | disconnected
      (rest : List Task)
      (hAgenda : t.agenda = .act .disconnect :: rest)
      (hHeld : t.held = true) :
      WaitOver k due t .step

variable {t t' : Turn}
variable {rest : List Task}

/- A timer that counts starts the attempt it was set for. -/
theorem resumed_of_isResumedBy
    (hOrderly : t.Orderly)
    {generation : UInt64}
    (hAgenda : t.agenda = .fireTimer generation :: rest)
    (hCounts : t.client.isResumedBy generation = true) :
    t.Resumed t.client.link.attempts t.step := by
  have hStep :
      t.step =
        { t with agenda := rest }.take
          (t.client.fireTimer t.now generation) := by
    simp [step, hAgenda, run]
  have hActed :
      t.Acted (.fireTimer generation)
        (t.client.fireTimer t.now generation) t.step := by
    rw [hStep]
    exact
      acted_of_take hOrderly hAgenda rfl
        (Effect.of_fireTimer generation) rfl rfl rfl rfl
  have hStarts := hActed.countP_milestones Remark.isStart
  have hStory := hActed.story
  rw [Client.fireTimer_of_isResumedBy t.now hCounts]
    at hStep hStarts hStory
  rw [Outcome.milestones_restart] at hStarts
  rw [Outcome.signs_restart] at hStory
  refine ⟨?_, ?_, ?_, ?_, hStory, ⟨rest, ?_⟩, ?_⟩
  · rw [hStep]
    rfl
  · rw [hStep]
    rfl
  · exact hStarts.trans (Nat.add_comm 1 _)
  · rw [hStep]
    rfl
  · rw [hStep]
    rfl
  · exact t.momentary_step.now

/- Only a handle on the client can disconnect it. -/
theorem held_of_story
    {sign : Sign}
    (hAgenda : t.agenda = .act .disconnect :: rest)
    (hStory : t.step.story = t.story ++ [sign]) :
    t.held = true := by
  rw [← Bool.not_eq_false]
  intro hHeld
  have hSame : t.step.story = t.story := by
    have hOwed : t.owedSigns = rest.filterMap Task.sign? := by
      rw [owedSigns, hAgenda]
      rfl
    rw [story, story, hOwed]
    simp [step, hAgenda, run, act, ifHeld, hHeld, reply, signs,
      owedSigns]
  rw [hSame] at hStory
  simpa using congrArg List.length hStory

theorem acted_disconnect
    (hOrderly : t.Orderly)
    (hAgenda : t.agenda = .act .disconnect :: rest)
    (hHeld : t.held = true) :
    t.Acted (.act .disconnect) t.client.disconnect t.step := by
  have hStep :
      t.step =
        ({ t with agenda := rest }.take
          t.client.disconnect).reply .done := by
    simp [step, hAgenda, run, act, ifHeld, hHeld]
  rw [hStep]
  exact
    acted_of_take hOrderly hAgenda rfl .disconnect rfl rfl rfl
      rfl

end Turn

end EventFeed

------------------------------------------------------------
-- Waiting for the Timer
------------------------------------------------------------

namespace EventFeed

namespace Turn

/-
  Since its notice of the given number the client has waited
  for the given instant: no attempt was started or began, and
  no call told of anything else.
-/
structure Waiting
    (t₁ : Turn)
    (k : UInt32)
    (due : Time)
    (past : List (Time × Sign))
    (t : Turn) : Prop where
  phase : t.client.link.phase = .reconnecting
  published : t.client.link.published = .reconnecting
  attempts : t.client.link.attempts = k
  generation :
    t.client.link.generation = t₁.client.link.generation
  timer :
    t.client.link.timer =
      some ⟨due, t₁.client.link.generation⟩
  starts : t.starts = t₁.starts
  begun : t.begun = t₁.begun
  reconnects :
    t.client.tally.reconnects = t₁.client.tally.reconnects
  silent : ∀ entry ∈ past, entry.2.isLifecycle = false
  within : t.alive = true → t.now ≤ due

variable {config : Config}
variable {k : UInt32}
variable {due : Time}
variable {past : List (Time × Sign)}
variable {t₁ t t' : Turn}

namespace Waiting

/- No attempt is held that could begin. -/
theorem transport_eq_none
    (hWaiting : t₁.Waiting k due past t)
    (hGoverned : t.Governed config) :
    t.client.link.transport = none := by
  cases hHeld : t.client.link.transport with
  | none => rfl
  | some generation =>
      have hActive : t.client.link.phase.isActive = true := by
        apply hGoverned.sound.transport.mp
        rw [hHeld]
        rfl
      rw [hWaiting.phase] at hActive
      contradiction

/- The timer of the wait counts. -/
theorem isResumedBy
    (hWaiting : t₁.Waiting k due past t)
    (hGoverned : t.Governed config) :
    t.client.isResumedBy t₁.client.link.generation = true := by
  have hManual : t.client.link.manual = false :=
    hGoverned.sound.manual_eq_false (by simp [hWaiting.phase])
  simp [Client.isResumedBy, hManual, hWaiting.phase,
    hWaiting.generation]

theorem wait
    (hWaiting : t₁.Waiting k due past t)
    {span : Span}
    (hDue :
      t.alive = true →
        ∀ due ∈ t.client.link.deadlines, t.now + span ≤ due) :
    t₁.Waiting k due past { t with now := t.now + span } :=
  { hWaiting with
    within := by
      intro hAlive
      apply hDue hAlive
      simp [Link.deadlines, hWaiting.timer] }

theorem still
    (hWaiting : t₁.Waiting k due past t)
    (hGoverned : t.Governed config)
    (hStill : t.Still t')
    (hNow : t'.now = t.now)
    (hAlive : t'.alive = true → t.alive = true) :
    t₁.Waiting k due past t' where
  phase := by
    rw [hStill.link]
    exact hWaiting.phase
  published := by
    rw [hStill.link]
    exact hWaiting.published
  attempts := by
    rw [hStill.link]
    exact hWaiting.attempts
  generation := by
    rw [hStill.link]
    exact hWaiting.generation
  timer := by
    rw [hStill.link]
    exact hWaiting.timer
  starts :=
    (hStill.countP_milestones Remark.isStart).trans
      hWaiting.starts
  begun := by
    rcases hStill.begun with hSame | ⟨generation, hHeld, _⟩
    · rw [hSame]
      exact hWaiting.begun
    · rw [hWaiting.transport_eq_none hGoverned] at hHeld
      contradiction
  reconnects := by
    rw [hStill.tally]
    exact hWaiting.reconnects
  silent := hWaiting.silent
  within := by
    rw [hNow]
    exact fun hLater => hWaiting.within (hAlive hLater)

/- The client waits on, or this is how the wait ended. -/
theorem acted
    {task : Task}
    {o : Outcome}
    (hWaiting : t₁.Waiting k due past t)
    (hOrderly : t.Orderly)
    (hGoverned : t.Governed config)
    (hPunctual : t.isPunctual task = true)
    (hActed : t.Acted task o t.step) :
    t₁.Waiting k due (past ++ o.signs.map (t.now, ·)) t.step ∨
      t.WaitOver k due .step := by
  rcases hActed.first with ⟨rest, hAgenda⟩
  have hClient := hActed.client
  have hPace := hActed.effect.pace
  cases hPace with
  | quiet hPhase hAttempts hTimer hGeneration hReconnects
      hStarts hSigns =>
      have hLater := hGoverned.acted hActed
      have hWaits : t.step.client.link.phase = .reconnecting := by
        rw [hClient, hPhase]
        exact hWaiting.phase
      refine
        Or.inl ⟨hWaits, ?_, ?_, ?_, ?_, ?_, ?_, ?_, ?_, ?_⟩
      · rw [hLater.sound.published]
        exact hWaits
      · rw [hClient, hAttempts]
        exact hWaiting.attempts
      · rw [hClient, hGeneration]
        exact hWaiting.generation
      · rw [hClient, hTimer]
        exact hWaiting.timer
      · rw [Turn.starts, hActed.countP_milestones, hStarts,
          Nat.zero_add]
        exact hWaiting.starts
      · rw [hActed.begun]
        exact hWaiting.begun
      · rw [hClient, hReconnects]
        exact hWaiting.reconnects
      · intro entry hMember
        rcases List.mem_append.mp hMember with hOld | hNew
        · exact hWaiting.silent entry hOld
        · rcases List.mem_map.mp hNew with ⟨sign, hSign, rfl⟩
          exact hSigns sign hSign
      · rw [t.momentary_step.now, t.momentary_step.alive]
        exact hWaiting.within
  | wait hPhase =>
      rw [hWaiting.phase] at hPhase
      contradiction
  | @resume generation _ hCounts =>
      simp only [isPunctual, hCounts, hWaiting.timer,
        Bool.not_true, Bool.false_or, Option.map_some,
        beq_iff_eq, Option.some.injEq] at hPunctual
      have hResumed :=
        resumed_of_isResumedBy hOrderly hAgenda hCounts
      rw [hWaiting.attempts] at hResumed
      exact
        Or.inr
          (.resumed generation rest hAgenda hPunctual.symm
            hResumed)
  | turn sign hPhase _ _ hSigns =>
      rw [hPhase hWaiting.phase] at hAgenda
      have hStory := hActed.story
      rw [hSigns] at hStory
      exact
        Or.inr
          (.disconnected rest hAgenda
            (held_of_story hAgenda hStory))

theorem move
    (hWaiting : t₁.Waiting k due past t)
    (hOrderly : t.Orderly)
    (hGoverned : t.Governed config)
    {m : Move}
    (hTimely : t.isTimely m = true) :
    t₁.Waiting k due (past ++ (t.news m).map (t.now, ·))
        (t.move m) ∨
      t.WaitOver k due m := by
  generalize hNext : t.move m = t'
  have hPassage := passage_move hOrderly hTimely
  rw [hNext] at hPassage
  cases hPassage with
  | wait span hIdle hDue =>
      rw [news_wait, List.map_nil, List.append_nil]
      exact Or.inl (hWaiting.wait hDue)
  | still hStill hNow hAlive =>
      subst hNext
      rw [news_of_still hStill, List.map_nil, List.append_nil]
      exact
        Or.inl (hWaiting.still hGoverned hStill hNow hAlive)
  | acted task o hActed _ _ hPunctual =>
      subst hNext
      rw [news_of_acted (m := .step) hActed]
      exact
        hWaiting.acted hOrderly hGoverned hPunctual hActed

/- At the due instant the timer may go off, and it counts. -/
theorem resumed_of_due
    (hWaiting : t₁.Waiting k due past t)
    (hOrderly : t.Orderly)
    (hGoverned : t.Governed config)
    (hAlive : t.alive = true)
    (hFree : t.isFree = true)
    (hNow : t.now = due) :
    t.timely (timerMoves t₁.client.link.generation) = true ∧
      t.Resumed k
        (t.follow (timerMoves t₁.client.link.generation)) := by
  have hPut :
      t.move (.timer t₁.client.link.generation) =
        { t with
          agenda :=
            .fireTimer t₁.client.link.generation ::
              t.agenda } := by
    simp only [Turn.move, hAlive, if_true, put, hFree]
  have hStill :=
    still_move hOrderly
      (m := .timer t₁.client.link.generation) (by simp)
  have hOrderly' :=
    orderly_move hOrderly (.timer t₁.client.link.generation)
  rw [timerMoves, follow_cons, follow_cons, follow_nil]
  simp only [timely]
  rw [hPut] at hStill hOrderly' ⊢
  constructor
  · simp [isTimely, isPunctual, hWaiting.timer, hNow]
  · have hResumed :=
      resumed_of_isResumedBy hOrderly' rfl
        (hWaiting.isResumedBy hGoverned)
    have hStarts := hStill.countP_milestones Remark.isStart
    have hAttempts := hWaiting.attempts
    subst hAttempts
    refine { hResumed with starts := ?_, story := ?_ }
    · exact hResumed.starts.trans (congrArg (· + 1) hStarts)
    · exact
        hResumed.story.trans
          (congrArg (· ++ _) hStill.story)

end Waiting

/-
  A client that waits goes on waiting until the move with
  which the wait ends in one of the known ways.
-/
theorem waiting_or_ended
    (hOrderly : t.Orderly)
    (hGoverned : t.Governed config)
    (hWaiting : t₁.Waiting k due [] t)
    (moves : List Move)
    (hTimely : t.timely moves = true) :
    t₁.Waiting k due (t.chronicle moves) (t.follow moves) ∨
      ∃ before m after,
        moves = before ++ m :: after ∧
          t₁.Waiting k due (t.chronicle before)
            (t.follow before) ∧
          (t.follow before).WaitOver k due m :=
  kept_or_ended
    (P := fun past t => t₁.Waiting k due past t)
    (E := fun t m => t.WaitOver k due m)
    (fun _ _ _ hOrderly hGoverned hBefore hNow =>
      hBefore.move hOrderly hGoverned hNow)
    hOrderly hGoverned [] hWaiting moves hTimely

end Turn

end EventFeed

------------------------------------------------------------
-- Reconnects and Their Notices
------------------------------------------------------------

namespace EventFeed

/-
  Every reconnect comes one interval after a notice of the
  same number, and in between nothing else happened to the
  connection.
-/
def OnSchedule
    (interval : Span)
    (past : List (Time × Sign)) : Prop :=
  ∀ earlier now k,
    earlier ++ [(now, .call (.reconnected k))] <+: past →
      ∃ start,
        lastSign? Sign.isLifecycle earlier =
            some (start, .call (.reconnecting k)) ∧
          now = start + interval

namespace OnSchedule

variable {interval : Span}
variable {past : List (Time × Sign)}

theorem nil : OnSchedule interval [] := by
  intro earlier now k hPrefix
  simp at hPrefix

/- A reconnect on schedule may come next. -/
theorem concat
    (hSchedule : OnSchedule interval past)
    (now : Time)
    (sign : Sign)
    (hNext :
      ∀ k, sign = .call (.reconnected k) →
        ∃ start,
          lastSign? Sign.isLifecycle past =
              some (start, .call (.reconnecting k)) ∧
            now = start + interval) :
    OnSchedule interval (past ++ [(now, sign)]) := by
  intro earlier instant k hPrefix
  rcases List.prefix_concat_iff.mp hPrefix with hNew | hOld
  · have hEnds := List.append_inj' hNew rfl
    simp only [List.cons.injEq, Prod.mk.injEq,
      and_true] at hEnds
    rcases hEnds with ⟨rfl, rfl, rfl⟩
    exact hNext k rfl
  · exact hSchedule earlier instant k hOld

/- Signs of nothing but events and errors may come next. -/
theorem append
    (hSchedule : OnSchedule interval past)
    (now : Time)
    {signs : List Sign}
    (hSigns : ∀ sign ∈ signs, sign.isLifecycle = false) :
    OnSchedule interval (past ++ signs.map (now, ·)) := by
  induction signs generalizing past with
  | nil =>
      rw [List.map_nil, List.append_nil]
      exact hSchedule
  | cons sign signs ih =>
      rw [List.forall_mem_cons] at hSigns
      rw [List.map_cons, List.append_cons]
      refine ih (hSchedule.concat now sign ?_) hSigns.2
      intro k hSign
      rw [hSign] at hSigns
      exact nomatch hSigns.1

end OnSchedule

/- Signs of nothing but events and errors start no attempt. -/
theorem countP_startsAttempt
    {signs : List Sign}
    (hSigns : ∀ sign ∈ signs, sign.isLifecycle = false) :
    signs.countP Stage.startsAttempt = 0 := by
  rw [List.countP_eq_zero]
  intro sign hMember hStarts
  have hQuiet := hSigns sign hMember
  unfold Stage.startsAttempt at hStarts
  split at hStarts <;> contradiction

theorem find?_isLifecycle
    {signs : List Sign}
    (hSigns : ∀ sign ∈ signs, sign.isLifecycle = false) :
    signs.reverse.find? Sign.isLifecycle = none := by
  rw [List.find?_eq_none]
  simpa using hSigns

namespace Turn

/-
  Since an earlier point of the run every reconnect was on
  schedule, the one that is waited for will be if its timer
  goes off when it is due, and no attempt was started but by
  a connect or a reconnect.
-/
structure Scheduled
    (config : Config)
    (t₀ : Turn)
    (past : List (Time × Sign))
    (t : Turn) : Prop where
  pending :
    t.client.link.phase = .reconnecting →
      ∃ start,
        lastSign? Sign.isLifecycle past =
            some
              (start,
                .call (.reconnecting t.client.link.attempts)) ∧
          t.client.link.timer =
            some
              ⟨start + config.reconnectInterval,
                t.client.link.generation⟩
  kept : OnSchedule config.reconnectInterval past
  starts :
    t.starts =
      t₀.starts + past.countP (Stage.startsAttempt ·.2)

variable {config : Config}
variable {past : List (Time × Sign)}
variable {t₀ t t' : Turn}

namespace Scheduled

theorem still
    (hScheduled : t₀.Scheduled config past t)
    (hStill : t.Still t') :
    t₀.Scheduled config past t' where
  pending := by
    rw [hStill.link]
    exact hScheduled.pending
  kept := hScheduled.kept
  starts :=
    (hStill.countP_milestones Remark.isStart).trans
      hScheduled.starts

theorem acted
    {task : Task}
    {o : Outcome}
    (hScheduled : t₀.Scheduled config past t)
    (hGoverned : t.Governed config)
    (hPunctual : t.isPunctual task = true)
    (hActed : t.Acted task o t') :
    t₀.Scheduled config (past ++ o.signs.map (t.now, ·)) t' := by
  have hCount : t'.starts =
      o.milestones.countP Remark.isStart + t.starts :=
    hActed.countP_milestones Remark.isStart
  have hStarts :
      o.milestones.countP Remark.isStart =
          o.signs.countP Stage.startsAttempt →
        t'.starts =
          t₀.starts +
            (past ++ o.signs.map (t.now, ·)).countP
              (Stage.startsAttempt ·.2) := by
    intro hNew
    have hMap :
        (o.signs.map (t.now, ·)).countP
            (Stage.startsAttempt ·.2) =
          o.signs.countP Stage.startsAttempt :=
      List.countP_map
    rw [hCount, hNew, hScheduled.starts, List.countP_append,
      hMap]
    omega
  have hPace := hActed.effect.pace
  cases hPace with
  | quiet hPhase hAttempts hTimer hGeneration _ hNone hSigns =>
      refine
        ⟨?_, hScheduled.kept.append t.now hSigns,
          hStarts (by rw [hNone, countP_startsAttempt hSigns])⟩
      rw [hActed.client, hPhase, hAttempts, hTimer,
        hGeneration, lastSign?_append, find?_isLifecycle hSigns,
        Option.map_none, Option.none_or]
      exact hScheduled.pending
  | wait hPhase hTimer hNone hSigns =>
      rw [hSigns] at hStarts ⊢
      refine
        ⟨?_, hScheduled.kept.concat t.now _ (by simp),
          hStarts (by rw [hNone]; rfl)⟩
      intro _
      refine ⟨t.now, ?_, ?_⟩
      · rw [lastSign?_append, hActed.client]
        rfl
      · rw [hActed.client, hTimer, hGoverned.configured]
  | resume hCounts hLater _ hOne hSigns =>
      rw [hSigns] at hStarts ⊢
      refine
        ⟨?_, hScheduled.kept.concat t.now _ ?_,
          hStarts (by rw [hOne]; rfl)⟩
      · rw [hActed.client, hLater]
        exact nofun
      · intro k hSign
        cases hSign
        have hWaits : t.client.link.phase = .reconnecting := by
          simp only [Client.isResumedBy, Bool.and_eq_true,
            beq_iff_eq] at hCounts
          exact hCounts.1.2
        rcases hScheduled.pending hWaits with
          ⟨start, hLast, hTimer⟩
        simp only [isPunctual, hCounts, hTimer, Bool.not_true,
          Bool.false_or, Option.map_some, beq_iff_eq,
          Option.some.injEq] at hPunctual
        exact ⟨start, hLast, hPunctual.symm⟩
  | turn sign hPhase hLater hSame hSigns _ hOther =>
      rw [hSigns] at hStarts ⊢
      refine
        ⟨?_, hScheduled.kept.concat t.now sign ?_, hStarts hSame⟩
      · rw [hActed.client]
        exact fun hWaits => absurd hWaits hLater
      · exact fun k hSign => absurd hSign (hOther k).2

end Scheduled

/- What is on schedule remains so in every timed run. -/
theorem scheduled_follow
    (hOrderly : t.Orderly)
    (hGoverned : t.Governed config)
    (hPhase : t.client.link.phase ≠ .reconnecting)
    (moves : List Move)
    (hTimely : t.timely moves = true) :
    t.Scheduled config (t.chronicle moves) (t.follow moves) := by
  have hStart : t.Scheduled config [] t :=
    ⟨fun hWaits => absurd hWaits hPhase, .nil, rfl⟩
  have hBoth :=
    timed_induction
      (P := fun past t' =>
        t'.Governed config ∧ t.Scheduled config past t')
      ?_ ?_ ?_ hOrderly [] ⟨hGoverned, hStart⟩ moves hTimely
  · exact hBoth.2
  · intro past t' span hBefore _ _
    exact
      ⟨hBefore.1.still (still_of_pass rfl rfl rfl rfl),
        hBefore.2.still (still_of_pass rfl rfl rfl rfl)⟩
  · intro past t' t'' hBefore hStill _ _
    exact ⟨hBefore.1.still hStill, hBefore.2.still hStill⟩
  · intro past t' t'' task o hBefore hActed _ _ hPunctual
    exact
      ⟨hBefore.1.acted hActed,
        hBefore.2.acted hBefore.1 hPunctual hActed⟩

end Turn

end EventFeed

------------------------------------------------------------
-- Delays
------------------------------------------------------------

namespace EventFeed

namespace Turn

/-
  A wait was broken off.  From here on an attempt only comes
  of a connect, or of a reconnect on schedule, whose notice
  is later than this; and the timer of the generation is late
  when it goes off.
-/
structure Abandoned
    (config : Config)
    (generation : UInt64)
    (t : Turn) : Prop where
  reconnects :
    ∀ moves, t.timely moves = true →
      OnSchedule config.reconnectInterval (t.chronicle moves)
  starts :
    ∀ moves, t.timely moves = true →
      (t.follow moves).starts =
        t.starts +
          (t.chronicle moves).countP (Stage.startsAttempt ·.2)
  timer :
    ∀ moves, (t.follow moves).teardowns < UInt64.size →
      (t.follow moves).IsLate (.fireTimer generation)

/-
  What comes of a notice of the given number, right after it
  was given, when the wait is over at the given instant.
-/
structure Delayed
    (config : Config)
    (k : UInt32)
    (due : Time)
    (t : Turn) : Prop where
  /- the client waits, until the timer or a disconnect -/
  waits :
    ∀ moves, t.timely moves = true →
      t.Waiting k due (t.chronicle moves) (t.follow moves) ∨
        ∃ before m after,
          moves = before ++ m :: after ∧
            t.Waiting k due (t.chronicle before)
              (t.follow before) ∧
            (t.follow before).WaitOver k due m
  /- at the due instant the timer may go off, and it counts -/
  resumes :
    ∀ moves u, u = t.follow moves →
      t.Waiting k due (t.chronicle moves) u →
        u.alive = true → u.isFree = true → u.now = due →
          u.timely (timerMoves t.client.link.generation) =
              true ∧
            u.Resumed k
              (u.follow (timerMoves t.client.link.generation))
  /- a disconnect breaks the wait off for good -/
  ends :
    ∀ moves rest u, u = t.follow moves →
      t.Waiting k due (t.chronicle moves) u →
        u.agenda = .act .disconnect :: rest → u.held = true →
          u.step.Abandoned config t.client.link.generation

variable {config : Config}
variable {t t₁ : Turn}
variable {rest : List Task}

/- What a disconnect leaves behind comes to nothing. -/
theorem abandoned_step
    (hOrderly : t.Orderly)
    (hGoverned : t.Governed config)
    (hAgenda : t.agenda = .act .disconnect :: rest)
    (hHeld : t.held = true) :
    t.step.Abandoned config t.client.link.generation := by
  have hActed := acted_disconnect hOrderly hAgenda hHeld
  have hOrderly' : t.step.Orderly := orderly_move hOrderly .step
  have hGoverned' : t.step.Governed config :=
    hGoverned.acted hActed
  have hPhase : t.step.client.link.phase ≠ .reconnecting := by
    rw [(step_disconnect hAgenda hHeld).1.phase]
    simp
  have hScheduled :=
    scheduled_follow hOrderly' hGoverned' hPhase
  refine
    ⟨fun moves hTimely => (hScheduled moves hTimely).kept,
      fun moves hTimely => (hScheduled moves hTimely).starts, ?_⟩
  intro moves hTeardowns
  have hOnce : t.step.teardowns = 1 + t.teardowns := by
    rw [teardowns, hActed.countP_milestones,
      Outcome.milestones_disconnect]
    rfl
  have hSince :
      t.step.teardowns ≤ (t.step.follow moves).teardowns :=
    countP_milestones_le_follow hOrderly' Remark.isTeardown
      moves
  have hNow :=
    (hGoverned'.follow hOrderly' moves).dated.toNat_eq
      hTeardowns rfl
  have hThen :=
    hGoverned.dated.toNat_eq
      (Nat.lt_of_le_of_lt (by omega) hTeardowns) rfl
  refine .timer t.client.link.generation fun hSame => ?_
  rw [hSame] at hNow
  omega

/- A notice is the beginning of a wait. -/
theorem waiting_of_story
    {m : Move}
    {k : UInt32}
    (hOrderly : t.Orderly)
    (hGoverned : t.Governed config)
    (hNotice :
      (t.move m).story =
        t.story ++ [.call (.reconnecting k)]) :
    (t.move m).Waiting k
      ((t.move m).now + config.reconnectInterval) []
      (t.move m) := by
  have hOther : ¬ t.Still (t.move m) := by
    intro hStill
    rw [hStill.story] at hNotice
    simpa using congrArg List.length hNotice
  have hStep : m = .step :=
    Classical.byContradiction fun hStep =>
      hOther (still_move hOrderly hStep)
  subst hStep
  rcases still_or_acted hOrderly (t.change_move .step) with
    hStill | ⟨task, o, hActed⟩
  · exact absurd hStill hOther
  have hSigns : o.signs = [.call (.reconnecting k)] := by
    rw [hActed.story] at hNotice
    exact List.append_cancel_left hNotice
  have hSound := (hGoverned.acted hActed).sound
  have hNow : (t.move .step).now = t.now :=
    t.momentary_step.now
  have hPace := hActed.effect.pace
  cases hPace with
  | quiet _ _ _ _ _ _ hQuiet =>
      rw [hSigns] at hQuiet
      simp [Sign.isLifecycle] at hQuiet
  | wait _ hTimer _ hWait =>
      rw [hWait] at hSigns
      rw [← hActed.client, hGoverned.configured, ← hNow]
        at hTimer
      have hPhase :
          (t.move .step).client.link.phase = .reconnecting := by
        apply hSound.timer.mp
        rw [hTimer]
        rfl
      refine
        ⟨hPhase, ?_, ?_, rfl, hTimer, rfl, rfl, rfl, by simp,
          fun _ => Nat.le_add_right _ _⟩
      · rw [hSound.published]
        exact hPhase
      · rw [hActed.client]
        simpa using hSigns
  | resume _ _ _ _ hResume => simp [hResume] at hSigns
  | turn sign _ _ _ hTurn _ hNeither =>
      rw [hTurn, List.cons.injEq] at hSigns
      exact absurd hSigns.1 (hNeither k).1

/-
  Every notice of a reconnect is followed by a wait of just
  one interval and one new attempt, unless a disconnect comes
  first; then it leads to nothing any more.
-/
theorem delayed_follow
    (config : Config)
    (before : List Move)
    (m : Move)
    {t t₁ : Turn}
    {k : UInt32}
    (hReached : t = (fresh config).follow before)
    (hMove : t₁ = t.move m)
    (hNotice :
      t₁.story = t.story ++ [.call (.reconnecting k)]) :
    t₁.Delayed config k (t₁.now + config.reconnectInterval) := by
  rcases governed_of_reached hReached with ⟨hOrderly, hGoverned⟩
  subst hMove
  have hWaiting := waiting_of_story hOrderly hGoverned hNotice
  have hOrderly₁ := orderly_move hOrderly m
  have hGoverned₁ : (t.move m).Governed config :=
    hGoverned.follow hOrderly [m]
  have hSince :
      ∀ {moves u}, u = (t.move m).follow moves →
        u.Orderly ∧ u.Governed config := by
    rintro moves _ rfl
    exact
      ⟨orderly_follow hOrderly₁ moves,
        hGoverned₁.follow hOrderly₁ moves⟩
  constructor
  · intro moves hTimely
    exact
      waiting_or_ended hOrderly₁ hGoverned₁ hWaiting moves
        hTimely
  · intro moves u hLater hStill hAlive hFree hDue
    rcases hSince hLater with ⟨hOrderly', hGoverned'⟩
    exact
      hStill.resumed_of_due hOrderly' hGoverned' hAlive hFree
        hDue
  · intro moves rest u hLater hStill hAgenda hHeld
    rcases hSince hLater with ⟨hOrderly', hGoverned'⟩
    rw [← hStill.generation]
    exact abandoned_step hOrderly' hGoverned' hAgenda hHeld

/-
  A connection is lost after ten milliseconds.  The wait lasts
  until sixty; a disconnect and a second connection that is
  lost at thirty lead to another wait, until eighty.
-/
theorem delayed_follow_twice :
    ∃ t u : Turn,
      u =
          t.follow
            [.step, .wait 10, .act .disconnect, .step, .step,
              .act .connect, .step, .begin, .wait 10,
              .act (.report 1 .closed), .step] ∧
        u.client.link.timer = some ⟨80, 5⟩ ∧
        t.Delayed
          { (default : Config) with
            autoReconnect := true
            reconnectInterval := 50 }
          1 60 ∧
        u.Delayed
          { (default : Config) with
            autoReconnect := true
            reconnectInterval := 50 }
          1 80 := by
  have hFirst :=
    delayed_follow
      { (default : Config) with
        autoReconnect := true
        reconnectInterval := 50 }
      [.act .connect, .step, .begin, .wait 10,
        .act (.report 0 .closed)]
      .step rfl rfl rfl
  have hSecond :=
    delayed_follow
      { (default : Config) with
        autoReconnect := true
        reconnectInterval := 50 }
      [.act .connect, .step, .begin, .wait 10,
        .act (.report 0 .closed), .step, .step, .wait 10,
        .act .disconnect, .step, .step, .act .connect, .step,
        .begin, .wait 10, .act (.report 1 .closed)]
      .step rfl rfl rfl
  exact ⟨_, _, rfl, rfl, hFirst, hSecond⟩

end Turn

end EventFeed
