import EventFeed.Proofs.Client.Failure
import EventFeed.Proofs.Client.Lateness

/-
  This file proves that a silence is noticed exactly when its
  time has come.

  The watch of an open connection is due one window after the
  latest sign of life: its opening or an event on it.  Two
  facts carry this.  Whatever resets the watch is a sign of
  life, at the same instant; and the one sign of life that
  resets nothing, the delivery of the event that opened the
  connection, comes before any time has passed.

  Key definitions include:
    * `Sign.isLife`
    * `lastHeard`
    * `Turn.Attentive`
    * `Turn.Lost`
    * `Turn.Left`
    * `Turn.Watched`

  Key results include:
    * `Effect.hearing_cases`
    * `Turn.attentive_follow`
    * `Turn.listening_or_left`
    * `Turn.watched_follow`
-/

------------------------------------------------------------
-- Signs of Life
------------------------------------------------------------

namespace EventFeed

/- Whether the sign tells that a connection is alive. -/
def Sign.isLife : Sign → Bool
  | .call .opened => true
  | .call (.message _ _) => true
  | .call (.ping _) => true
  | _ => false

/- The instant of the latest sign of life. -/
def lastHeard (past : List (Time × Sign)) : Option Time :=
  (lastSign? Sign.isLife past).map (·.1)

theorem Sign.isLife_callback (e : Event) :
    (call e.callback).isLife = true := by
  unfold Event.callback
  split <;> rfl

/- Signs of one instant are heard then or not at all. -/
theorem lastHeard_append
    (past : List (Time × Sign))
    (now : Time)
    (signs : List Sign) :
    lastHeard (past ++ signs.map (now, ·)) =
      if signs.any Sign.isLife then
        some now
      else
        lastHeard past := by
  rw [lastHeard, lastSign?_append]
  cases hLife : signs.any Sign.isLife with
  | true =>
      obtain ⟨sign, hSign⟩ :
          ∃ sign,
            signs.reverse.find? Sign.isLife = some sign := by
        rw [← Option.isSome_iff_exists, List.find?_isSome]
        simpa using hLife
      simp [hSign]
  | false =>
      have hNone : signs.reverse.find? Sign.isLife = none := by
        rw [List.find?_eq_none]
        simpa using hLife
      simp [hNone, lastHeard]

/-
  An operation leaves the watch as it is, and then it shows no
  sign of life but that of an event that opened; or it resets
  the watch of an open connection with such a sign; or the
  connection is not open, and no sign of life was shown.
-/
theorem Effect.hearing_cases
    {now : Time}
    {begun : Array UInt64}
    {c : Client}
    {task : Task}
    {o : Outcome}
    (hEffect : Effect now begun c task o) :
    (o.client.link.keepalive = c.link.keepalive ∧
        o.client.link.phase = c.link.phase ∧
        (∀ generation e, .deliver generation e ∉ o.owed) ∧
        (o.signs.any Sign.isLife = true →
          ∃ generation e, task = .owe (.deliver generation e))) ∨
      (o.client.link.keepalive = c.link.keepalive.reset now ∧
        o.signs.any Sign.isLife = true) ∨
      (o.client.link.phase ≠ .opened ∧
        o.signs.any Sign.isLife = false) := by
  cases hEffect with
  | nothing _ remarks hStale =>
      rw [Outcome.signs, (Remark.silent_of_isStale hStale).2]
      exact Or.inl ⟨rfl, rfl, by simp, by simp⟩
  | connect hPhase =>
      rw [Outcome.signs_connect now hPhase,
        Client.connect_of_accepted now hPhase]
      exact Or.inr (Or.inr ⟨by simp, rfl⟩)
  | disconnect =>
      rw [Outcome.signs_disconnect]
      exact Or.inr (Or.inr ⟨by simp [Client.disconnect], rfl⟩)
  | opening attempt generation r next =>
      rw [Outcome.signs_opening]
      exact Or.inr (Or.inl ⟨rfl, rfl⟩)
  | event attempt generation e =>
      rw [Outcome.signs_accept]
      refine Or.inr (Or.inl ⟨rfl, ?_⟩)
      simp [Sign.isLife_callback]
  | giveUp _ before why hBefore hManual hPhase hWhy =>
      rw [Outcome.signs_giveUp hBefore hWhy]
      exact Or.inr (Or.inr ⟨by simp, rfl⟩)
  | retry _ before hBefore =>
      rw [Outcome.signs_retry now hBefore]
      exact Or.inr (Or.inr ⟨by simp, rfl⟩)
  | restart =>
      rw [Outcome.signs_restart]
      exact Or.inr (Or.inr ⟨by simp [Client.count], rfl⟩)
  | delivery generation e =>
      refine Or.inl ⟨rfl, rfl, ?_, fun _ => ⟨_, _, rfl⟩⟩
      intro _ _ hOwed
      simp only [Client.accept] at hOwed
      split at hOwed <;> simp at hOwed
  | error =>
      refine Or.inl ⟨rfl, rfl, by simp, ?_⟩
      intro hLife
      exact absurd hLife Bool.false_ne_true
  | detach =>
      refine Or.inl ⟨rfl, rfl, by simp, ?_⟩
      intro hLife
      exact absurd hLife Bool.false_ne_true
  | countPing =>
      refine Or.inl ⟨rfl, rfl, by simp, ?_⟩
      intro hLife
      exact absurd hLife Bool.false_ne_true

end EventFeed

------------------------------------------------------------
-- Deadline of the Watch
------------------------------------------------------------

namespace EventFeed

namespace Turn

/-
  The watch of an open connection is due one window after the
  latest sign of life; and while an event that opened waits
  for delivery, one window from now.
-/
structure Attentive
    (config : Config)
    (past : List (Time × Sign))
    (t : Turn) : Prop where
  window : t.client.link.keepalive.window = config.pingTimeout
  due :
    t.client.link.phase = .opened →
      ∃ last,
        lastHeard past = some last ∧
          t.client.link.keepalive.due? =
            some (last + config.pingTimeout)
  delivery :
    ∀ generation e, .owe (.deliver generation e) ∈ t.agenda →
      t.client.link.phase = .opened →
        t.client.link.keepalive.due? =
          some (t.now + config.pingTimeout)

namespace Attentive

variable {config : Config}
variable {past : List (Time × Sign)}
variable {t t' : Turn}

theorem fresh (config : Config) :
    (fresh config).Attentive config [] where
  window := rfl
  due := nofun
  delivery := by simp [Turn.fresh]

/- Nothing waits for delivery when time passes. -/
theorem wait
    (hAttentive : t.Attentive config past)
    (hIdle : t.agenda = [])
    (span : Span) :
    { t with now := t.now + span }.Attentive config past where
  window := hAttentive.window
  due := hAttentive.due
  delivery := by simp [hIdle]

theorem still
    (hAttentive : t.Attentive config past)
    (hStill : t.Still t')
    (hNow : t'.now = t.now) :
    t'.Attentive config past where
  window := by
    rw [hStill.link]
    exact hAttentive.window
  due := by
    rw [hStill.link]
    exact hAttentive.due
  delivery := by
    intro generation e hMember
    rw [hStill.link, hNow]
    exact hAttentive.delivery generation e (hStill.owed _ hMember)

theorem acted
    {task : Task}
    {o : Outcome}
    (hAttentive : t.Attentive config past)
    (hActed : t.Acted task o t')
    (hNow : t'.now = t.now) :
    t'.Attentive config
      (past ++ o.signs.map (t.now, ·)) := by
  have hWindow :
      t'.client.link.keepalive.window = config.pingTimeout := by
    rw [hActed.client, hActed.effect.window_eq]
    exact hAttentive.window
  rcases hActed.effect.hearing_cases with
    ⟨hSame, hPhase, hNone, hDelivery⟩ | ⟨hReset, hLife⟩ |
      ⟨hOther, _⟩
  · refine ⟨hWindow, ?_, ?_⟩
    · rw [hActed.client, hSame, hPhase, lastHeard_append]
      intro hOpened
      split
      · next hLife =>
          rcases hDelivery hLife with ⟨generation, e, hTask⟩
          have hMember := hActed.member
          rw [hTask] at hMember
          exact
            ⟨t.now, rfl,
              hAttentive.delivery generation e hMember hOpened⟩
      · exact hAttentive.due hOpened
    · intro generation e hMember
      rw [hActed.client, hSame, hPhase, hNow]
      have hOld :=
        (hActed.owed _ hMember).resolve_left
          (hNone generation e)
      exact hAttentive.delivery generation e hOld
  · have hDue :
        t'.client.link.keepalive.due? =
          some (t.now + config.pingTimeout) := by
      rw [hActed.client, hReset, ← hAttentive.window]
      rfl
    refine ⟨hWindow, ?_, ?_⟩
    · rw [lastHeard_append, if_pos hLife]
      exact fun _ => ⟨t.now, rfl, hDue⟩
    · rw [hNow]
      exact fun _ _ _ _ => hDue
  · rw [← hActed.client] at hOther
    exact
      ⟨hWindow, fun hOpened => absurd hOpened hOther,
        fun _ _ _ hOpened => absurd hOpened hOther⟩

end Attentive

/- The watch of every timed run is attentive. -/
theorem attentive_follow
    (config : Config)
    (moves : List Move)
    (hTimely : (fresh config).timely moves = true) :
    ((fresh config).follow moves).Attentive config
      ((fresh config).chronicle moves) :=
  timed_induction (P := fun past t => t.Attentive config past)
    (fun _ _ span hBefore hIdle _ => hBefore.wait hIdle span)
    (fun _ _ _ hBefore hStill hNow _ =>
      hBefore.still hStill hNow)
    (fun _ _ _ _ _ hBefore hActed hNow _ _ =>
      hBefore.acted hActed hNow)
    (orderly_fresh config) [] (.fresh config) moves hTimely

end Turn

end EventFeed

------------------------------------------------------------
-- Losing a Connection
------------------------------------------------------------

namespace EventFeed

namespace Turn

/-
  A failure was answered at once by its one notice: that the
  client reconnects, which it does only if it may, or that it
  has closed.  No error was called or counted.
-/
structure Lost (config : Config) (t t' : Turn) : Prop where
  answer :
    t.GaveUp t' ∨
      (config.autoReconnect = true ∧ t.Retried t')
  tally : t'.client.tally = t.client.tally
  now : t'.now = t.now

/-
  The connection is still open, and its watch still waits for
  the same instant.
-/
structure Listening (due : Time) (t : Turn) : Prop where
  alive : t.alive = true
  phase : t.client.link.phase = .opened
  watch : t.client.link.keepalive.due? = some due
  within : t.now ≤ due

/- How a move can end the wait of an open connection. -/
inductive Left
    (config : Config)
    (due : Time)
    (t : Turn) : Move → Prop
  /- a sign of life is heard -/
  | heard
      {m : Move}
      (sign : Sign)
      (hNews : sign ∈ t.news m)
      (hLife : sign.isLife = true) :
      Left config due t m
  /- the watch goes off, right when it is due -/
  | silent
      (generation token : UInt64)
      (rest : List Task)
      (hAgenda : t.agenda = .fireAlarm generation token :: rest)
      (hNow : t.now = due)
      (hLost : t.Lost config t.step) :
      Left config due t .step
  /- the attempt ends -/
  | ended
      (attempt : Nat)
      (rest : List Task)
      (hAgenda :
        t.agenda = .act (.report attempt .closed) :: rest)
      (hLost : t.Lost config t.step) :
      Left config due t .step
  /- a disconnect takes effect -/
  | closed
      (rest : List Task)
      (hAgenda : t.agenda = .act .disconnect :: rest)
      (hClosed : t.step.client.link.phase = .closed) :
      Left config due t .step
  /- the client ends -/
  | dropped
      {m : Move}
      (hDead : (t.move m).alive = false) :
      Left config due t m

variable {config : Config}
variable {t t' : Turn}
variable {task : Task}
variable {rest : List Task}

theorem lost_of_isFailedBy
    (hOrderly : t.Orderly)
    (hGoverned : t.Governed config)
    (hAgenda : t.agenda = task :: rest)
    (hFails : t.isFailedBy task = true) :
    t.Lost config t.step := by
  rcases acted_of_isFailedBy hOrderly hAgenda hFails with
    ⟨before, hBefore, hActed⟩
  refine ⟨?_, ?_, t.momentary_step.now⟩
  · rcases answered_of_isFailedBy hOrderly hGoverned hAgenda
        hFails with
      ⟨hGaveUp, _⟩ | ⟨hRetried, hAuto, _⟩
    · exact Or.inl hGaveUp
    · exact Or.inr ⟨hAuto, hRetried⟩
  · rw [hActed.client]
    rfl

/- What comes before a failure without a trace is no part. -/
theorem Lost.of_still
    {t'' : Turn}
    (hLost : t'.Lost config t'')
    (hClient : t'.client = t.client)
    (hStory : t'.story = t.story)
    (hNow : t'.now = t.now) :
    t.Lost config t'' := by
  rcases hLost with ⟨hAnswer, hTally, hSame⟩
  rw [hClient] at hTally
  rw [hNow] at hSame
  refine ⟨?_, hTally, hSame⟩
  rcases hAnswer with hGaveUp | ⟨hAuto, hRetried⟩
  · refine Or.inl { hGaveUp with story := ?_ }
    rw [hGaveUp.story, hStory]
  · refine
      Or.inr
        ⟨hAuto,
          { hRetried with story := ?_, timer := ?_ }⟩
    · rw [hRetried.story, hStory, hClient]
    · rw [hRetried.timer, hNow, hClient]

/- A pending alarm of an open connection is a failure. -/
theorem isFailedBy_alarm
    (hGoverned : t.Governed config)
    (hPhase : t.client.link.phase = .opened) :
    t.client.isFailedBy t.begun
        (.fireAlarm t.client.link.generation
          t.client.link.keepalive.token) =
      true := by
  have hManual : t.client.link.manual = false :=
    hGoverned.sound.manual_eq_false (by simp [hPhase])
  have hArmed : t.client.link.keepalive.isArmed = true :=
    hGoverned.sound.watch.mpr hPhase
  simp [Client.isFailedBy, Keepalive.isCurrent, hArmed,
    hManual, hPhase]

/- The alarm of the watch goes off and is seen to. -/
def alarmMoves (t : Turn) : List Move :=
  [.alarm t.client.link.generation
      t.client.link.keepalive.token,
    .step]

/- The watch can go off when it is due, and then it counts. -/
theorem lost_of_due
    (hOrderly : t.Orderly)
    (hGoverned : t.Governed config)
    (hAlive : t.alive = true)
    (hFree : t.isFree = true)
    (hPhase : t.client.link.phase = .opened)
    (hWatch : t.client.link.keepalive.due? = some t.now) :
    t.timely t.alarmMoves = true ∧
      t.Lost config (t.follow t.alarmMoves) := by
  have hPut :
      t.move
          (.alarm t.client.link.generation
            t.client.link.keepalive.token) =
        { t with
          agenda :=
            .fireAlarm t.client.link.generation
                t.client.link.keepalive.token ::
              t.agenda } := by
    simp only [move, hAlive, if_true, put, hFree]
  have hStill :=
    still_move hOrderly
      (m := .alarm t.client.link.generation
        t.client.link.keepalive.token)
      (by simp)
  have hOrderly' := orderly_move hOrderly
    (.alarm t.client.link.generation
      t.client.link.keepalive.token)
  have hFails := isFailedBy_alarm hGoverned hPhase
  rw [alarmMoves, follow_cons, follow_cons, follow_nil]
  simp only [timely]
  rw [hPut] at hStill hOrderly' ⊢
  constructor
  · simp [isTimely, isPunctual, hWatch]
  · have hLost :=
      lost_of_isFailedBy hOrderly' (hGoverned.still hStill) rfl
        hFails
    exact hLost.of_still rfl hStill.story rfl

end Turn

end EventFeed

------------------------------------------------------------
-- Waiting for a Sign of Life
------------------------------------------------------------

namespace EventFeed

namespace Turn

variable {config : Config}
variable {due : Time}
variable {t t' : Turn}

namespace Listening

theorem kept
    (hListening : t.Listening due)
    (hAlive : t'.alive = true)
    (hNow : t'.now = t.now)
    (hPhase : t'.client.link.phase = t.client.link.phase)
    (hSame :
      t'.client.link.keepalive = t.client.link.keepalive) :
    t'.Listening due where
  alive := hAlive
  phase := hPhase.trans hListening.phase
  watch := by
    rw [hSame]
    exact hListening.watch
  within := by
    rw [hNow]
    exact hListening.within

/- An open connection waits on, or this is how that ended. -/
theorem acted
    {task : Task}
    {o : Outcome}
    (hListening : t.Listening due)
    (hOrderly : t.Orderly)
    (hGoverned : t.Governed config)
    (hPunctual : t.isPunctual task = true)
    (hActed : t.Acted task o t.step) :
    t.step.Listening due ∨ t.Left config due .step := by
  rcases hActed.first with ⟨rest, hAgenda⟩
  have hPhase := hListening.phase
  have hNews : t.news .step = o.signs :=
    news_of_acted (m := .step) hActed
  have hAlive : t.step.alive = true :=
    t.momentary_step.alive.trans hListening.alive
  have hKept :=
    hListening.kept hAlive t.momentary_step.now
  have hClient := hActed.client
  have hFailed :
      t.client.isFailedBy t.begun task = true →
        t.Left config due .step := by
    intro hFails
    have hTurn : t.isFailedBy task = true := by
      unfold isFailedBy
      split
      · rw [hListening.alive, hFails]
        rfl
      · exact hFails
    have hLost :=
      lost_of_isFailedBy hOrderly hGoverned hAgenda hTurn
    rcases Effect.cases_of_isFailedBy hFails with
      ⟨attempt, _, rfl, _⟩ | ⟨generation, token, rfl, _⟩
    · exact .ended attempt rest hAgenda hLost
    · simp only [isPunctual, hFails, hListening.watch,
        Bool.not_true, Bool.false_or, beq_iff_eq,
        Option.some.injEq] at hPunctual
      exact
        .silent generation token rest hAgenda hPunctual.symm
          hLost
  have hEffect := hActed.effect
  cases hEffect with
  | nothing =>
      exact Or.inl (hKept (by rw [hClient]) (by rw [hClient]))
  | error =>
      exact
        Or.inl
          (hKept (by rw [hClient]; rfl) (by rw [hClient]; rfl))
  | countPing =>
      exact
        Or.inl
          (hKept (by rw [hClient]; rfl) (by rw [hClient]; rfl))
  | event attempt generation e =>
      rw [Outcome.signs_accept] at hNews
      exact
        Or.inr
          (.heard (.call e.callback) (by simp [hNews])
            (Sign.isLife_callback e))
  | delivery generation e =>
      rw [Outcome.signs_accept] at hNews
      exact
        Or.inr
          (.heard (.call e.callback) (by simp [hNews])
            (Sign.isLife_callback e))
  | giveUp _ _ _ _ _ _ _ hFails =>
      exact Or.inr (hFailed hFails)
  | retry _ _ _ _ _ _ _ hFails =>
      exact Or.inr (hFailed hFails)
  | disconnect =>
      exact Or.inr (.closed rest hAgenda (by rw [hClient]; rfl))
  -- everything else takes a connection that is not open
  | connect hOther =>
      simp [hPhase, Phase.acceptsConnect] at hOther
  | opening _ _ _ _ _ _ hOther => simp [hPhase] at hOther
  | detach _ _ _ _ hOther =>
      simp [hPhase, Phase.isActive] at hOther
  | restart _ _ hOther => simp [hPhase] at hOther

theorem move
    (hListening : t.Listening due)
    (hOrderly : t.Orderly)
    (hGoverned : t.Governed config)
    {m : Move}
    (hTimely : t.isTimely m = true) :
    (t.move m).Listening due ∨ t.Left config due m := by
  generalize hNext : t.move m = t'
  have hPassage := passage_move hOrderly hTimely
  rw [hNext] at hPassage
  cases hPassage with
  | wait span hIdle hDue =>
      have hMember : due ∈ t.client.link.deadlines := by
        simp [Link.deadlines, hListening.watch]
      exact
        Or.inl
          { hListening with
            within := hDue hListening.alive due hMember }
  | still hStill hNow _ =>
      cases hAlive : t'.alive with
      | true =>
          exact
            Or.inl
              (hListening.kept hAlive hNow (by rw [hStill.link])
                (by rw [hStill.link]))
      | false => exact Or.inr (.dropped (by rw [hNext, hAlive]))
  | acted task o hActed _ _ hPunctual =>
      subst hNext
      exact
        hListening.acted hOrderly hGoverned hPunctual hActed

end Listening

/-
  An open connection waits for its deadline as long as no move
  ends the wait in one of the known ways.
-/
theorem listening_or_left
    (hOrderly : t.Orderly)
    (hGoverned : t.Governed config)
    (hListening : t.Listening due)
    (moves : List Move)
    (hTimely : t.timely moves = true) :
    (t.follow moves).Listening due ∨
      ∃ before m after,
        moves = before ++ m :: after ∧
          (t.follow before).Listening due ∧
          (t.follow before).Left config due m :=
  kept_or_ended
    (P := fun _ t => t.Listening due)
    (E := fun t m => t.Left config due m)
    (fun _ _ _ hOrderly hGoverned hBefore hNow =>
      hBefore.move hOrderly hGoverned hNow)
    hOrderly hGoverned [] hListening moves hTimely

end Turn

end EventFeed

------------------------------------------------------------
-- What the Watch Does Not Heed
------------------------------------------------------------

namespace EventFeed

namespace Turn

/- An entry that is no sign of life and ends nothing. -/
inductive IsMute (t : Turn) : Task → Prop
  /- an error, of whatever attempt -/
  | error
      (attempt : Nat)
      (e : FeedError) :
      IsMute t (.act (.report attempt (.error e)))
  /- an opening of what is open -/
  | opened
      (attempt : Nat)
      (hPhase : t.client.link.phase = .opened) :
      IsMute t (.act (.report attempt .opened))
  /- whatever comes too late, or is refused -/
  | late
      {task : Task}
      (hLate : t.IsLate task) :
      IsMute t task
  /- a change of the handlers -/
  | register
      (slot : Slot)
      (reactions : List (List Action)) :
      IsMute t (.act (.register slot reactions))
  | unregister
      (slot : Slot) :
      IsMute t (.act (.unregister slot))

variable {t : Turn}

/- Every property of the connection outlasts a mute entry. -/
theorem IsMute.link_run
    {task : Task}
    (hMute : t.IsMute task) :
    (t.run task).client.link = t.client.link := by
  cases hMute with
  | error attempt e =>
      simp only [run, act, withAttempt, Client.report,
        Client.takeError]
      split
      · split
        · split <;> rfl
        · rfl
      · rfl
  | opened attempt hPhase =>
      simp only [run, act, withAttempt, Client.report, hPhase]
      split
      · split
        · simp [reply, take, Client.unchanged]
        · rfl
      · rfl
  | late hLate =>
      have hAlike : t.Alike Remark.isLoud (t.run task) :=
        hLate.alike fun _ hStale =>
          Remark.isLoud_of_isStale hStale
      rw [hAlike.client]
  | register slot reactions =>
      simp only [run, act, ifHeld]
      split <;> rfl
  | unregister slot =>
      simp only [run, act, ifHeld]
      split <;> rfl

/- Outside an open connection every alarm is late. -/
theorem isLate_alarm
    {config : Config}
    (hGoverned : t.Governed config)
    (hPhase : t.client.link.phase ≠ .opened)
    (generation token : UInt64) :
    t.IsLate (.fireAlarm generation token) := by
  have hArmed : t.client.link.keepalive.isArmed = false := by
    rw [Bool.eq_false_iff]
    exact fun hArmed =>
      hPhase (hGoverned.sound.watch.mp hArmed)
  refine .alarm generation token (Or.inl ?_)
  rw [Keepalive.isCurrent, hArmed, Bool.false_and]

end Turn

end EventFeed

------------------------------------------------------------
-- Silence
------------------------------------------------------------

namespace EventFeed

namespace Turn

/- All work is done, and no timer is due any more. -/
structure Settled (t : Turn) : Prop where
  idle : t.agenda = []
  ahead : ∀ due ∈ t.client.link.deadlines, t.now < due

/-
  What holds of the watch at a point of a timed run at which
  the latest sign of life was heard at the given instant.
-/
structure Watched
    (config : Config)
    (heard : Option Time)
    (t : Turn) : Prop where
  /- the deadline is one window after the sign -/
  due :
    t.client.link.phase = .opened →
      ∃ last,
        heard = some last ∧
          t.client.link.keepalive.due? =
            some (last + config.pingTimeout)
  /- no connection is open beyond its deadline -/
  within :
    ∀ last, heard = some last →
      t.alive = true → t.client.link.phase = .opened →
        t.now ≤ last + config.pingTimeout ∧
          (t.Settled → t.now < last + config.pingTimeout)
  /- at the deadline the alarm may come, and it counts -/
  rings :
    ∀ last, heard = some last →
      t.alive = true → t.client.link.phase = .opened →
        t.isFree = true → t.now = last + config.pingTimeout →
          t.timely t.alarmMoves = true ∧
            t.Lost config (t.follow t.alarmMoves)
  /- a connection stays open until it is left in a known way -/
  left :
    ∀ last, heard = some last →
      t.alive = true → t.client.link.phase = .opened →
        ∀ moves, t.timely moves = true →
          (t.follow moves).Listening
              (last + config.pingTimeout) ∨
            ∃ before m after,
              moves = before ++ m :: after ∧
                (t.follow before).Listening
                  (last + config.pingTimeout) ∧
                (t.follow before).Left config
                  (last + config.pingTimeout) m
  /- nothing else moves the deadline -/
  mute :
    ∀ task, t.IsMute task →
      (t.run task).client.link = t.client.link
  /- a connection that is not open has no deadline -/
  outside :
    t.client.link.phase ≠ .opened →
      t.client.link.keepalive.due? = none ∧
        ∀ generation token,
          t.Alike Remark.isLoud
            (t.run (.fireAlarm generation token))

variable {config : Config}
variable {t : Turn}

theorem Governed.due?_eq_none
    (hGoverned : t.Governed config)
    (hPhase : t.client.link.phase ≠ .opened) :
    t.client.link.keepalive.due? = none := by
  have hArmed : t.client.link.keepalive.isArmed ≠ true :=
    fun hArmed => hPhase (hGoverned.sound.watch.mp hArmed)
  have hAlarm : t.client.link.keepalive.alarm = none := by
    simpa [Keepalive.isArmed] using hArmed
  rw [Keepalive.due?, hAlarm]

/- Every point of every timed run is watched. -/
theorem watched_follow
    (config : Config)
    (moves : List Move)
    {t : Turn}
    {heard : Option Time}
    (hReached : t = (fresh config).follow moves)
    (hHeard : heard = lastHeard ((fresh config).chronicle moves))
    (hTimely : (fresh config).timely moves = true) :
    t.Watched config heard := by
  rcases governed_of_reached hReached with ⟨hOrderly, hGoverned⟩
  have hPunctual : t.Punctual := by
    rw [hReached]
    exact
      punctual_follow (orderly_fresh config)
        (by simp [Punctual, fresh, Client.new, Link.new,
          Keepalive.new, Link.deadlines, Keepalive.due?])
        moves hTimely
  have hDue := (attentive_follow config moves hTimely).due
  rw [← hReached, ← hHeard] at hDue
  have hListening :
      ∀ last, heard = some last → t.alive = true →
        t.client.link.phase = .opened →
          t.Listening (last + config.pingTimeout) := by
    intro last hLast hAlive hPhase
    rcases hDue hPhase with ⟨other, hOther, hWatch⟩
    rw [hLast, Option.some.injEq] at hOther
    subst hOther
    refine ⟨hAlive, hPhase, hWatch, hPunctual hAlive _ ?_⟩
    simp [Link.deadlines, hWatch]
  constructor
  · exact hDue
  · intro last hLast hAlive hPhase
    have hNow := hListening last hLast hAlive hPhase
    refine ⟨hNow.within, fun hSettled => hSettled.ahead _ ?_⟩
    simp [Link.deadlines, hNow.watch]
  · intro last hLast hAlive hPhase hFree hNow
    have hWatch := (hListening last hLast hAlive hPhase).watch
    rw [← hNow] at hWatch
    exact
      lost_of_due hOrderly hGoverned hAlive hFree hPhase hWatch
  · intro last hLast hAlive hPhase moves hLater
    exact
      listening_or_left hOrderly hGoverned
        (hListening last hLast hAlive hPhase) moves hLater
  · exact fun _ hMute => hMute.link_run
  · intro hPhase
    refine ⟨hGoverned.due?_eq_none hPhase, ?_⟩
    intro generation token
    exact
      (isLate_alarm hGoverned hPhase generation token).alike
        fun _ hStale => Remark.isLoud_of_isStale hStale

/-
  A connection opens at once, and an event comes after forty
  milliseconds.  One window later the alarm goes off; it has
  not been seen to yet.
-/
theorem watched_follow_until_deadline :
    ∃ t : Turn,
      t.agenda = [.fireAlarm 1 2] ∧
        t.client.link.phase = .opened ∧
        t.now = 140 ∧
        t.Watched
          { (default : Config) with pingTimeout := 100 }
          (some 40) := by
  refine ⟨_, ?_, ?_, ?_,
    watched_follow
      { (default : Config) with pingTimeout := 100 }
      [.act .connect, .step, .begin, .act (.report 0 .opened),
        .step, .step, .wait 40,
        .act (.report 0 (.event default)), .step, .step,
        .wait 100, .alarm 1 2]
      rfl (by decide) (by decide)⟩
  · rfl
  · rfl
  · rfl

end Turn

end EventFeed
