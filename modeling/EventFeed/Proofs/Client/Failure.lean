import EventFeed.Proofs.Client.Supervision

/-
  This file says what a failure is and how it is answered.

  A failure comes as the end of the current attempt or as
  the alarm of its watch.  It is told by what it finds when
  it is seen to, not by what it leads to, so failures can be
  counted along a run before anything is known of their
  answers.  Each of them is answered by one notice; and
  nothing but a failure is.

  Key definitions include:
    * `Turn.isFailedBy`
    * `Turn.takesFailure`
    * `Turn.failures`
    * `Turn.Retried`
    * `Turn.GaveUp`

  Key results include:
    * `Turn.acted_of_isFailedBy`
    * `Turn.move_cases`
    * `Turn.over_follow`
    * `Turn.answered_of_isFailedBy`
-/

------------------------------------------------------------
-- Failures of a Turn
------------------------------------------------------------

namespace EventFeed

namespace Turn

/-
  Whether an entry brings a failure of the current attempt.
  A report reaches a client only while the client exists.
-/
def isFailedBy (t : Turn) (task : Task) : Bool :=
  match task with
  | .act _ => t.alive && t.client.isFailedBy t.begun task
  | _ => t.client.isFailedBy t.begun task

/- Whether the move is a step that takes in a failure. -/
def takesFailure (t : Turn) : Move → Bool
  | .step =>
      match t.agenda with
      | task :: _ => t.isFailedBy task
      | [] => false
  | _ => false

/- How many failures are taken in along a run. -/
def failures (t : Turn) : List Move → Nat
  | [] => 0
  | m :: moves =>
      (if t.takesFailure m then 1 else 0) +
        (t.move m).failures moves

variable {t t' : Turn}
variable {task : Task}
variable {rest : List Task}

theorem client_isFailedBy
    (hFails : t.isFailedBy task = true) :
    t.client.isFailedBy t.begun task = true := by
  unfold isFailedBy at hFails
  split at hFails
  · rw [Bool.and_eq_true] at hFails
    exact hFails.2
  · exact hFails

theorem isCall_of_isFailedBy
    (hFails : t.isFailedBy task = true) :
    task.isCall = false := by
  rcases Effect.cases_of_isFailedBy (client_isFailedBy hFails)
    with ⟨_, _, rfl, _⟩ | ⟨_, _, rfl, _⟩ <;> rfl

/-
  Whatever a failure comes from, seeing to it recovers the
  client.
-/
theorem step_of_isFailedBy
    (hAgenda : t.agenda = task :: rest)
    (hFails : t.isFailedBy task = true) :
    ∃ before answers,
      Forewarning before ∧
        t.step =
          { { t with agenda := rest }.take
              (t.client.recover t.now before) with
            answers := answers } := by
  have hClient := client_isFailedBy hFails
  rcases Effect.cases_of_isFailedBy hClient with
    ⟨attempt, generation, rfl, hBegun, hLive, hPhase⟩ |
      ⟨generation, token, rfl, _⟩
  · have hAlive : t.alive = true := by
      simp only [isFailedBy, Bool.and_eq_true] at hFails
      exact hFails.1
    have hEnd :
        t.client.report t.now generation .closed =
          t.client.recover t.now [] :=
      Effect.takeEnd_eq_recover hLive hPhase
    refine ⟨[], .done :: t.answers, .none, ?_⟩
    rw [← hEnd]
    simp [step, hAgenda, run, act, withAttempt, hBegun, hAlive,
      reply, take]
  · refine
      ⟨_, t.answers, .silence t.client.link.keepalive.window, ?_⟩
    rw [← Effect.fireAlarm_eq_recover hClient]
    simp [step, hAgenda, run, take]

theorem acted_of_isFailedBy
    (hOrderly : t.Orderly)
    (hAgenda : t.agenda = task :: rest)
    (hFails : t.isFailedBy task = true) :
    ∃ before,
      Forewarning before ∧
        t.Acted task (t.client.recover t.now before) t.step := by
  rcases step_of_isFailedBy hAgenda hFails with
    ⟨before, answers, hBefore, hStep⟩
  have hEffect :
      Effect t.now t.begun t.client task
        (t.client.recover t.now before) :=
    Effect.of_recover hBefore (client_isFailedBy hFails)
  refine ⟨before, hBefore, ?_⟩
  rw [hStep]
  exact
    acted_of_take hOrderly hAgenda
      (isCall_of_isFailedBy hFails) hEffect rfl rfl rfl rfl

/- A report to a client that has ended leaves no trace. -/
theorem still_of_not_alive
    {attempt : Nat}
    {r : Report}
    (hOrderly : t.Orderly)
    (hAgenda : t.agenda = .act (.report attempt r) :: rest)
    (hDead : t.alive = false) :
    t.Still t.step := by
  have hFree : t.isFree = true := isFree_of_agenda hAgenda rfl
  have hRest : rest <:+ t.agenda := by
    rw [hAgenda]
    exact List.suffix_cons _ rest
  have hStep :
      ∃ answer,
        t.step = { t with agenda := rest }.reply answer := by
    simp only [step, hAgenda, run, act, withAttempt, hDead]
    split <;> exact ⟨_, rfl⟩
  rcases hStep with ⟨answer, hEq⟩
  have hSame : rest = [] ++ rest := rfl
  have hSeen : t.seen = [] ++ t.seen := rfl
  rw [hEq]
  exact
    still_of_aside hOrderly hFree ⟨rfl, rfl, rfl, rfl⟩ hSame
      (by simp) hRest hSeen (by simp)

/-
  A move takes in a failure and recovers the client; or it
  leaves the connection alone, or an operation has an effect
  that is not the answer to a failure.
-/
theorem move_cases
    (hOrderly : t.Orderly)
    (m : Move) :
    (t.takesFailure m = true ∧
        ∃ task before,
          t.client.isFailedBy t.begun task = true ∧
            Forewarning before ∧
            t.Acted task (t.client.recover t.now before)
              (t.move m)) ∨
      (t.takesFailure m = false ∧
        (t.Still (t.move m) ∨
          ∃ task o,
            t.client.isFailedBy t.begun task = false ∧
              t.Acted task o (t.move m))) := by
  by_cases hStep : m = .step
  · subst hStep
    cases hAgenda : t.agenda with
    | nil =>
        refine Or.inr ⟨by simp [takesFailure, hAgenda], Or.inl ?_⟩
        simp only [move, step, hAgenda]
        exact still_of_pass rfl rfl rfl rfl
    | cons task rest =>
        cases hFails : t.isFailedBy task with
        | true =>
            rcases acted_of_isFailedBy hOrderly hAgenda hFails
              with ⟨before, hBefore, hActed⟩
            refine
              Or.inl ⟨by simp [takesFailure, hAgenda, hFails], ?_⟩
            exact
              ⟨task, before, client_isFailedBy hFails, hBefore,
                hActed⟩
        | false =>
            refine
              Or.inr ⟨by simp [takesFailure, hAgenda, hFails], ?_⟩
            cases hClient : t.client.isFailedBy t.begun task with
            | true =>
                -- it would fail, but no client is left
                rcases Effect.cases_of_isFailedBy hClient with
                  ⟨attempt, _, rfl, _⟩ |
                    ⟨generation, token, rfl, _⟩
                · have hDead : t.alive = false := by
                    simpa [isFailedBy, hClient] using hFails
                  exact
                    Or.inl
                      (still_of_not_alive hOrderly hAgenda hDead)
                · have hAlarm :
                      t.isFailedBy (.fireAlarm generation token) =
                        true :=
                    hClient
                  rw [hAlarm] at hFails
                  contradiction
            | false =>
                rcases still_or_acted hOrderly
                    (t.change_move .step) with
                  hStill | ⟨first, o, hActed⟩
                · exact Or.inl hStill
                · rcases hActed.first with ⟨_, hFirst⟩
                  rw [hAgenda, List.cons.injEq] at hFirst
                  rw [hFirst.1] at hClient
                  exact Or.inr ⟨first, o, hClient, hActed⟩
  · refine Or.inr ⟨?_, Or.inl (still_move hOrderly hStep)⟩
    cases m <;> first | rfl | contradiction

end Turn

end EventFeed

------------------------------------------------------------
-- Closed for the Time Being
------------------------------------------------------------

namespace EventFeed

/-
  A closed client stays closed and starts nothing, whatever
  comes to it, until a connect is accepted.
-/
theorem Effect.closed
    {now : Time}
    {begun : Array UInt64}
    {c : Client}
    {task : Task}
    {o : Outcome}
    (hEffect : Effect now begun c task o)
    (hPhase : c.link.phase = .closed)
    (hConnect : o.milestones.countP Remark.isConnect = 0) :
    o.client.link.phase = .closed ∧
      o.milestones.countP Remark.isStart = 0 := by
  cases hEffect with
  | nothing _ remarks hStale =>
      rw [Outcome.milestones,
        (Remark.silent_of_isStale hStale).1]
      exact ⟨hPhase, rfl⟩
  | connect hAccepts =>
      rw [Outcome.milestones_connect now hAccepts] at hConnect
      contradiction
  | disconnect =>
      rw [Outcome.milestones_disconnect]
      exact ⟨rfl, rfl⟩
  | error => exact ⟨hPhase, rfl⟩
  | detach => exact ⟨hPhase, rfl⟩
  | delivery =>
      rw [Outcome.milestones_accept]
      exact ⟨hPhase, rfl⟩
  | countPing => exact ⟨hPhase, rfl⟩
  -- everything else takes a connection
  | opening _ _ _ _ _ _ hOther =>
      rw [hPhase] at hOther
      contradiction
  | event _ _ _ _ _ hOther =>
      rw [hPhase] at hOther
      contradiction
  | giveUp _ _ _ _ _ hOther =>
      rw [hPhase] at hOther
      contradiction
  | retry _ _ _ _ hOther =>
      rw [hPhase] at hOther
      contradiction
  | restart _ _ hOther =>
      rw [hPhase] at hOther
      contradiction

namespace Turn

/-
  The client is closed, and since an earlier point of the run
  no attempt was started or began.
-/
structure Over (t t' : Turn) : Prop where
  phase : t'.client.link.phase = .closed
  starts : t'.starts = t.starts
  begun : t'.begun = t.begun

namespace Over

variable {config : Config}
variable {t t' t'' : Turn}

/- No attempt can begin when no task is held. -/
theorem still
    (hOver : t.Over t')
    (hSound : t'.client.link.Sound config)
    (hStill : t'.Still t'') :
    t.Over t'' where
  phase := by
    rw [hStill.link]
    exact hOver.phase
  starts :=
    (hStill.countP_milestones Remark.isStart).trans hOver.starts
  begun := by
    rcases hStill.begun with hSame | ⟨generation, hHeld, _⟩
    · rw [hSame]
      exact hOver.begun
    · have hActive : t'.client.link.phase.isActive = true := by
        apply hSound.transport.mp
        rw [hHeld]
        rfl
      rw [hOver.phase] at hActive
      contradiction

theorem acted
    {task : Task}
    {o : Outcome}
    (hOver : t.Over t')
    (hActed : t'.Acted task o t'')
    (hConnect : o.milestones.countP Remark.isConnect = 0) :
    t.Over t'' := by
  rcases hActed.effect.closed hOver.phase hConnect with
    ⟨hPhase, hStart⟩
  have hStarts :
      t''.starts =
        o.milestones.countP Remark.isStart + t'.starts :=
    hActed.countP_milestones Remark.isStart
  refine ⟨?_, ?_, ?_⟩
  · rw [hActed.client]
    exact hPhase
  · rw [hStarts, hStart, Nat.zero_add]
    exact hOver.starts
  · rw [hActed.begun]
    exact hOver.begun

end Over

variable {config : Config}
variable {t : Turn}

/- Nothing but a connect ends the rest of a closed client. -/
theorem over_follow
    (hOrderly : t.Orderly)
    (hGoverned : t.Governed config)
    (hPhase : t.client.link.phase = .closed)
    (moves : List Move)
    (hConnects : (t.follow moves).connects ≤ t.connects) :
    t.Over (t.follow moves) := by
  have hBoth :=
    history_induction
      (P := fun t' =>
        t'.Governed config ∧
          t.connects ≤ t'.connects ∧
          (t'.connects ≤ t.connects → t.Over t'))
      ?_ ?_ hOrderly
      ⟨hGoverned, Nat.le_refl _, fun _ => ⟨hPhase, rfl, rfl⟩⟩
      moves
  · exact hBoth.2.2 hConnects
  · intro t' t'' hBefore hStill
    rcases hBefore with ⟨hKept, hSince, hOver⟩
    have hSame : t''.connects = t'.connects :=
      hStill.countP_milestones Remark.isConnect
    refine ⟨hKept.still hStill, by omega, ?_⟩
    intro hLe
    exact (hOver (by omega)).still hKept.sound hStill
  · intro t' t'' task o hBefore hActed
    rcases hBefore with ⟨hKept, hSince, hOver⟩
    have hCount :
        t''.connects =
          o.milestones.countP Remark.isConnect + t'.connects :=
      hActed.countP_milestones Remark.isConnect
    refine ⟨hKept.acted hActed, by omega, ?_⟩
    intro hLe
    exact (hOver (by omega)).acted hActed (by omega)

end Turn

end EventFeed

------------------------------------------------------------
-- Answers to a Failure
------------------------------------------------------------

namespace EventFeed

namespace Turn

/-
  A failure was answered by one notice that the client will
  reconnect, and a timer was set for it.
-/
structure Retried (t t' : Turn) : Prop where
  phase : t'.client.link.phase = .reconnecting
  story :
    t'.story =
      t.story ++
        [.call (.reconnecting (t.client.link.attempts + 1))]
  timer :
    t'.client.link.timer =
      some
        ⟨t.now + t.client.config.reconnectInterval,
          t'.client.link.generation⟩

/-
  A failure was answered by one notice that the client has
  closed.  No timer is set, and nothing is started until a
  connect is accepted.
-/
structure GaveUp (t t' : Turn) : Prop where
  phase : t'.client.link.phase = .closed
  story : t'.story = t.story ++ [.call .closed]
  timer : t'.client.link.timer = none
  watch : t'.client.link.keepalive.isArmed = false
  lasting :
    ∀ moves,
      (t'.follow moves).connects = t'.connects →
        t'.Over (t'.follow moves)

variable {config : Config}
variable {t : Turn}
variable {task : Task}
variable {rest : List Task}

/-
  Whether a failure is the last one depends on nothing but
  the configuration and the counter.
-/
theorem answered_of_isFailedBy
    (hOrderly : t.Orderly)
    (hGoverned : t.Governed config)
    (hAgenda : t.agenda = task :: rest)
    (hFails : t.isFailedBy task = true) :
    (t.GaveUp t.step ∧
        (config.autoReconnect = false ∨
          ∃ ceiling,
            config.maxAttempts = some ceiling ∧
              ceiling ≤ t.client.link.attempts)) ∨
      (t.Retried t.step ∧
        config.autoReconnect = true ∧
        ∀ ceiling, config.maxAttempts = some ceiling →
          t.client.link.attempts < ceiling) := by
  rcases acted_of_isFailedBy hOrderly hAgenda hFails with
    ⟨before, hBefore, hActed⟩
  rcases Effect.active_of_isFailedBy (client_isFailedBy hFails)
    with ⟨hManual, hPhase⟩
  have hLater : t.step.Governed config := hGoverned.acted hActed
  have hOrderly' : t.step.Orderly := orderly_move hOrderly .step
  have hStory := hActed.story
  have hClient := hActed.client
  rcases Link.recover_cases t.client.config t.now hManual hPhase
    with ⟨why, hWhy, hEq⟩ | ⟨hAuto, hBudget, hEq⟩
  · rw [Client.recover, hEq] at hStory hClient
    have hClosed : t.step.client.link.phase = .closed := by
      rw [hClient]
      rfl
    have hSound := hLater.sound
    refine Or.inl ⟨⟨hClosed, ?_, ?_, ?_, ?_⟩, ?_⟩
    · rw [hStory]
      exact
        congrArg (t.story ++ ·)
          (Outcome.signs_giveUp hBefore hWhy)
    · exact hSound.timer_eq_none (by simp [hClosed])
    · rw [Bool.eq_false_iff, ne_eq, hSound.watch, hClosed]
      simp
    · intro moves hConnects
      exact
        over_follow hOrderly' hLater hClosed moves
          (Nat.le_of_eq hConnects)
    · rw [hGoverned.configured] at hWhy
      cases hWhy with
      | lost hAuto => exact Or.inl hAuto
      | gaveUp _ ceiling hCeiling hSpent =>
          exact Or.inr ⟨ceiling, hCeiling, hSpent⟩
  · rw [Client.recover, hEq] at hStory hClient
    rw [hGoverned.configured] at hAuto hBudget
    refine Or.inr ⟨⟨?_, ?_, ?_⟩, hAuto, hBudget⟩
    · rw [hClient]
      rfl
    · rw [hStory]
      exact
        congrArg (t.story ++ ·)
          (Outcome.signs_retry t.now hBefore _)
    · rw [hClient]
      rfl

end Turn

end EventFeed
