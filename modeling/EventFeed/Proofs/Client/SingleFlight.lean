import EventFeed.Proofs.Client.Calm
import EventFeed.Proofs.Client.Failure
import EventFeed.Proofs.Client.Lateness

/-
  This file proves that an attempt fails once.

  The end of an attempt may be reported more than once, and
  its watch may find it silent at the same instant.  Whichever
  signal comes first recovers the client and retires the
  attempt, so every other one finds itself out of date.  And
  what the first one leads to does not depend on which one it
  is.

  Key definitions include:
    * `Turn.serve`
    * `Turn.Recovered`
    * `Turn.Volley`
    * `Turn.Spent`

  Key results include:
    * `Turn.alike_serve_of_isFailedBy`
    * `Turn.recovered_serve`
    * `Turn.Volley.alike`
    * `Turn.single_flight`
-/

------------------------------------------------------------
-- Signals Served
------------------------------------------------------------

namespace EventFeed

theorem Remark.isMilestone_of_isStale
    {r : Remark}
    (hStale : r.isStale = true) :
    r.isMilestone = false := by
  cases r <;> first | rfl | contradiction

namespace Turn

/- The turn with nothing to see to but a signal. -/
def facing (t : Turn) (signal : Task) : Turn :=
  { t with agenda := [signal] }

/-
  See to a signal and to all that it leads to, handlers
  included.  What was under way before waits.
-/
def serve (t : Turn) (signal : Task) : Turn :=
  { (t.facing signal).finish with agenda := t.agenda }

/- See to signals, one after the other. -/
def serveAll (t : Turn) (signals : List Task) : Turn :=
  signals.foldl serve t

@[simp]
theorem serveAll_nil : serveAll t [] = t :=
  rfl

@[simp]
theorem serveAll_cons
    (t : Turn)
    (signal : Task)
    (signals : List Task) :
    t.serveAll (signal :: signals) =
      (t.serve signal).serveAll signals :=
  rfl

variable {keep : Remark → Bool}
variable {t t' : Turn}
variable {signal : Task}

/- Turns stay alike when their agendas are set alike. -/
theorem Alike.withAgenda
    (hAlike : t.Alike keep t')
    {agenda agenda' : List Task}
    (hAgenda : agenda.map Task.gist = agenda'.map Task.gist) :
    Alike keep { t with agenda := agenda }
      { t' with agenda := agenda' } := by
  simp_all [Alike, gist]

theorem Alike.agenda (hAlike : t.Alike keep t') :
    t.agenda.map Task.gist = t'.agenda.map Task.gist :=
  congrArg Turn.agenda hAlike

theorem Alike.serve
    (hAlike : t.Alike keep t')
    (signal : Task) :
    (t.serve signal).Alike keep (t'.serve signal) :=
  (hAlike.withAgenda rfl).finish.withAgenda hAlike.agenda

/- Serving a signal begins with seeing to it. -/
theorem serve_eq_finish_step (t : Turn) (signal : Task) :
    t.serve signal =
      { (t.facing signal).step.finish with
        agenda := t.agenda } := by
  unfold serve
  rw [finish_eq_finish_step (List.cons_ne_nil _ _)]

/- Serving a late signal shows in nothing but stale remarks. -/
theorem IsLate.alike_serve
    (hKeep : ∀ r, r.isStale = true → keep r = false)
    (hLate : t.IsLate signal) :
    t.Alike keep (t.serve signal) := by
  have hAlone : IsLate { t with agenda := [] } signal := by
    cases hLate with
    | report attempt generation r hBegun hRetired =>
        exact .report attempt generation r hBegun hRetired
    | timer generation hPast => exact .timer generation hPast
    | alarm generation token hPast =>
        exact .alarm generation token hPast
    | connect e hRefused => exact .connect e hRefused
  have hAlike :
      Alike keep { t with agenda := [] } (t.facing signal).step :=
    hAlone.alike hKeep
  have hDone : (t.facing signal).step.agenda = [] := by
    simpa using hAlike.agenda
  rw [serve_eq_finish_step, finish_of_agenda_eq_nil hDone]
  exact hAlike.withAgenda rfl

------------------------------------------------------------
-- Failures Served
------------------------------------------------------------

/- Milestones do not tell what led up to a recovery. -/
theorem alike_take_recover
    {before : List Remark}
    (hBefore : Forewarning before)
    (answers : List Answer) :
    Alike Remark.isMilestone
      (t.take (t.client.recover t.now []))
      { t.take (t.client.recover t.now before) with
        answers := answers } := by
  have hNone :
      before.filterMap
          (fun r =>
            (Observation.remark r).gist? Remark.isMilestone) =
        [] := by
    cases hBefore <;> rfl
  simp [Alike, gist, take, Client.recover, hNone,
    List.filterMap_append, List.filterMap_reverse,
    List.filterMap_map, Function.comp_def]

/- Whichever failure it is, it recovers the client. -/
theorem alike_step_of_isFailedBy
    (hFails : t.isFailedBy signal = true) :
    Alike Remark.isMilestone
      ({ t with agenda := [] }.take (t.client.recover t.now []))
      (t.facing signal).step := by
  rcases step_of_isFailedBy (t := t.facing signal) rfl hFails
    with ⟨before, answers, hBefore, hStep⟩
  rw [hStep]
  exact
    alike_take_recover (t := { t with agenda := [] }) hBefore
      answers

/- So it makes no difference which one of them is served. -/
theorem alike_serve_of_isFailedBy
    {other : Task}
    (hFails : t.isFailedBy signal = true)
    (hOther : t.isFailedBy other = true) :
    (t.serve signal).Alike Remark.isMilestone
      (t.serve other) := by
  have hStep :=
    (alike_step_of_isFailedBy hFails).symm.trans
      (alike_step_of_isFailedBy hOther)
  rw [serve_eq_finish_step, serve_eq_finish_step]
  exact hStep.finish.withAgenda rfl

/-
  A failure is answered by one notice and nothing else: that
  the client reconnects, for which the one timer is set, or
  that it has closed.
-/
inductive Noticed (t t' : Turn) : Prop
  | waits
      (hPhase : t'.client.link.phase = .reconnecting)
      (hSigns :
        t'.signs =
          t.signs ++
            [.call (.reconnecting (t.client.link.attempts + 1))])
      (hAttempts :
        t'.client.link.attempts = t.client.link.attempts + 1)
      (hTimer :
        t'.client.link.timer =
          some
            ⟨t.now + t.client.config.reconnectInterval,
              t'.client.link.generation⟩)
  | closes
      (hPhase : t'.client.link.phase = .closed)
      (hSigns : t'.signs = t.signs ++ [.call .closed])
      (hAttempts :
        t'.client.link.attempts = t.client.link.attempts)
      (hTimer : t'.client.link.timer = none)

/- The one attempt was retired and its failure answered. -/
structure Recovered (t t' : Turn) : Prop where
  begun : t'.begun = t.begun
  tally : t'.client.tally = t.client.tally
  generation :
    t'.client.link.generation = t.client.link.generation + 1
  unset : t.client.link.timer = none
  noticed : t.Noticed t'

/- Calm handlers are called for a failure and nothing else. -/
theorem calm_step_of_isFailedBy
    (hCalm : t.client.handlers.Calm)
    (hFails : t.isFailedBy signal = true) :
    (t.facing signal).step.Calm := by
  rcases step_of_isFailedBy (t := t.facing signal) rfl hFails
    with ⟨before, answers, _, hStep⟩
  rw [hStep]
  refine ⟨hCalm, ?_⟩
  intro task hMember
  simp only [take, Client.recover, Client.noticeDuty,
    List.append_nil, List.mem_map, List.map_map] at hMember
  rcases hMember with ⟨notice, _, rfl⟩
  rfl

/-
  Serving a failure makes of the connection what recovering it
  does, and shows the notice of that.
-/
theorem serve_of_isFailedBy
    (hCalm : t.client.handlers.Calm)
    (hFails : t.isFailedBy signal = true) :
    ∃ before,
      Forewarning before ∧
        (t.serve signal).begun = t.begun ∧
        (t.serve signal).client.tally = t.client.tally ∧
        (t.serve signal).client.link =
          (t.client.link.recover t.client.config t.now).link ∧
        (t.serve signal).signs =
          t.signs ++ (t.client.recover t.now before).signs := by
  have hOrderly : (t.facing signal).Orderly := by
    simp [Orderly, facing]
  rcases acted_of_isFailedBy hOrderly rfl hFails with
    ⟨before, hBefore, hActed⟩
  rcases
    (calm_step_of_isFailedBy hCalm hFails).finish
      (orderly_move hOrderly .step) with
    ⟨hUntouched, hSigns⟩
  have hOwed : (t.facing signal).owedSigns = [] := by
    apply filterMap_sign?
    intro task hMember
    rw [List.mem_singleton.mp hMember]
    exact isCall_of_isFailedBy hFails
  have hTally := congrArg Client.tally hActed.client
  have hLink := congrArg Client.link hActed.client
  rw [serve_eq_finish_step]
  refine ⟨before, hBefore, ?_, ?_, ?_, ?_⟩
  · exact hUntouched.begun.trans hActed.begun
  · exact hUntouched.tally.trans hTally
  · exact hUntouched.link.trans hLink
  · refine hSigns.trans ?_
    rw [hActed.story, story, hOwed, List.append_nil]
    rfl

theorem recovered_serve
    {config : Config}
    (hSound : t.client.link.Sound config)
    (hCalm : t.client.handlers.Calm)
    (hFails : t.isFailedBy signal = true) :
    t.Recovered (t.serve signal) := by
  rcases Effect.active_of_isFailedBy (client_isFailedBy hFails)
    with ⟨hManual, hPhase⟩
  have hUnset : t.client.link.timer = none := by
    apply hSound.timer_eq_none
    intro hWaits
    rw [hWaits] at hPhase
    contradiction
  rcases serve_of_isFailedBy hCalm hFails with
    ⟨before, hBefore, hBegun, hTally, hLink, hSigns⟩
  rcases Link.recover_cases t.client.config t.now hManual hPhase
    with ⟨why, hWhy, hEq⟩ | ⟨_, _, hEq⟩
  · rw [hEq] at hLink
    rw [Client.recover, hEq] at hSigns
    refine ⟨hBegun, hTally, by rw [hLink]; rfl, hUnset, ?_⟩
    refine .closes (by rw [hLink]; rfl) ?_ (by rw [hLink]; rfl) ?_
    · exact
        hSigns.trans
          (congrArg (t.signs ++ ·)
            (Outcome.signs_giveUp hBefore hWhy))
    · rw [hLink]
      exact hUnset
  · rw [hEq] at hLink
    rw [Client.recover, hEq] at hSigns
    refine ⟨hBegun, hTally, by rw [hLink]; rfl, hUnset, ?_⟩
    refine
      .waits (by rw [hLink]; rfl) ?_ (by rw [hLink]; rfl)
        (by rw [hLink]; rfl)
    exact
      hSigns.trans
        (congrArg (t.signs ++ ·)
          (Outcome.signs_retry t.now hBefore _))

------------------------------------------------------------
-- Volleys
------------------------------------------------------------

/-
  Signals that come one after the other: failures of the
  attempt of an earlier turn, and signals that are late when
  they come.
-/
inductive Volley (t : Turn) : Turn → List Task → Prop
  | nil (t' : Turn) : Volley t t' []
  | failure
      {t' : Turn}
      {signal : Task}
      {signals : List Task}
      (hFails : t.isFailedBy signal = true)
      (hRest : Volley t (t'.serve signal) signals) :
      Volley t t' (signal :: signals)
  | late
      {t' : Turn}
      {signal : Task}
      {signals : List Task}
      (hLate : t'.IsLate signal)
      (hRest : Volley t (t'.serve signal) signals) :
      Volley t t' (signal :: signals)

/- A failure is not late when it comes. -/
theorem IsLate.isFailedBy_eq_false
    (hLate : t.IsLate signal) :
    t.isFailedBy signal = false := by
  cases hLate with
  | report attempt generation r hBegun hRetired =>
      cases r with
      | closed =>
          rw [isLive] at hRetired
          rw [isFailedBy, Client.isFailedBy, hBegun,
            ← Bool.and_assoc, hRetired, Bool.false_and]
      | _ => simp [isFailedBy, Client.isFailedBy]
  | timer generation hPast => rfl
  | alarm generation token hPast =>
      rcases hPast with hToken | hGeneration
      · simp [isFailedBy, Client.isFailedBy, hToken]
      · simp [isFailedBy, Client.isFailedBy, hGeneration]
  | connect e hRefused => simp [isFailedBy, Client.isFailedBy]

/-
  The same attempts have begun, and the one of then is not
  current any more.
-/
structure Spent (t t' : Turn) : Prop where
  begun : t'.begun = t.begun
  generation :
    t'.client.link.generation ≠ t.client.link.generation

/- Then every failure of it is late. -/
theorem Spent.isLate
    (hSpent : t.Spent t')
    (hFails : t.isFailedBy signal = true) :
    t'.IsLate signal := by
  have hPast := hSpent.generation
  rcases Effect.cases_of_isFailedBy (client_isFailedBy hFails)
    with
    ⟨attempt, generation, rfl, hBegun, hLive, _⟩ |
      ⟨generation, token, rfl, _, hCurrent, _⟩
  · rw [(Effect.manual_of_isLive hLive).1] at hPast
    rw [← hSpent.begun] at hBegun
    refine .report attempt generation .closed hBegun ?_
    simp [isLive, Link.isLive, hPast]
  · rw [hCurrent] at hPast
    exact .alarm generation token (Or.inr hPast)

theorem Spent.of_alike
    {t'' : Turn}
    (hSpent : t.Spent t')
    (hAlike : t'.Alike keep t'') :
    t.Spent t'' where
  begun := hAlike.begun.trans hSpent.begun
  generation := by
    rw [hAlike.client]
    exact hSpent.generation

theorem Recovered.spent
    (hRecovered : t.Recovered t') :
    t.Spent t' where
  begun := hRecovered.begun
  generation := by
    rw [hRecovered.generation]
    simp

theorem Alike.isFailedBy
    (hAlike : t.Alike keep t')
    (signal : Task) :
    t'.isFailedBy signal = t.isFailedBy signal := by
  unfold Turn.isFailedBy
  rw [hAlike.alive, hAlike.client, hAlike.begun]

namespace Volley

variable {signals : List Task}

/- After the first failure nothing else counts. -/
theorem alike_of_spent
    (hKeep : ∀ r, r.isStale = true → keep r = false)
    (hVolley : t.Volley t' signals)
    (hSpent : t.Spent t') :
    t'.Alike keep (t'.serveAll signals) := by
  induction hVolley with
  | nil t' => exact .refl t'
  | failure hFails _ ih =>
      have hServed := (hSpent.isLate hFails).alike_serve hKeep
      exact hServed.trans (ih (hSpent.of_alike hServed))
  | late hLate _ ih =>
      have hServed := hLate.alike_serve hKeep
      exact hServed.trans (ih (hSpent.of_alike hServed))

/-
  Until the first failure nothing counts, and from then on
  nothing counts any more.
-/
theorem alike
    (hVolley : t.Volley t' signals)
    (hAlike : t.Alike Remark.isMilestone t')
    (hRecovered :
      ∀ signal, t.isFailedBy signal = true →
        t.Recovered (t.serve signal))
    (hMember : signal ∈ signals)
    (hFails : t.isFailedBy signal = true) :
    (t.serve signal).Alike Remark.isMilestone
      (t'.serveAll signals) := by
  have hKeep :
      ∀ r : Remark, r.isStale = true → r.isMilestone = false :=
    fun _ hStale => Remark.isMilestone_of_isStale hStale
  induction hVolley with
  | nil => contradiction
  | failure hFirst hRest _ =>
      have hServed :=
        (alike_serve_of_isFailedBy hFails hFirst).trans
          (hAlike.serve _)
      have hSpent := (hRecovered signal hFails).spent
      exact
        hServed.trans
          (hRest.alike_of_spent hKeep (hSpent.of_alike hServed))
  | late hLate _ ih =>
      have hServed := hLate.alike_serve hKeep
      rcases List.mem_cons.mp hMember with rfl | hRest
      · have hNone := hLate.isFailedBy_eq_false
        rw [hAlike.isFailedBy, hFails] at hNone
        contradiction
      · exact ih (hAlike.trans hServed) hRest

end Volley

/- The signs of a turn are told by its milestones and calls. -/
theorem Alike.signs
    (hAlike : t.Alike Remark.isMilestone t') :
    t'.signs = t.signs := by
  have hGist :
      ∀ t : Turn,
        (t.gist Remark.isMilestone).signs = t.signs := by
    intro t
    unfold Turn.signs gist
    rw [← List.filterMap_reverse, List.filterMap_filterMap]
    congr 1
    funext o
    cases o with
    | remark r => cases r <;> rfl
    | _ => rfl
  rw [← hGist t, ← hGist t', hAlike]

theorem Recovered.of_alike
    {t'' : Turn}
    (hRecovered : t.Recovered t')
    (hAlike : t'.Alike Remark.isMilestone t'') :
    t.Recovered t'' where
  begun := hAlike.begun.trans hRecovered.begun
  tally := by
    rw [hAlike.client]
    exact hRecovered.tally
  generation := by
    rw [hAlike.client]
    exact hRecovered.generation
  unset := hRecovered.unset
  noticed := by
    cases hRecovered.noticed with
    | waits hPhase hSigns hAttempts hTimer =>
        rw [← hAlike.client] at hPhase hAttempts hTimer
        rw [← hAlike.signs] at hSigns
        exact .waits hPhase hSigns hAttempts hTimer
    | closes hPhase hSigns hAttempts hTimer =>
        rw [← hAlike.client] at hPhase hAttempts hTimer
        rw [← hAlike.signs] at hSigns
        exact .closes hPhase hSigns hAttempts hTimer

/-
  Any number of failures of an attempt that come one after the
  other, in any order and with any late signals before, between
  and after them, lead to what each of them alone leads to.
-/
theorem single_flight
    (config : Config)
    (moves : List Move)
    {t : Turn}
    {signals : List Task}
    {signal : Task}
    (hReached : t = (fresh config).follow moves)
    (hCalm : t.client.handlers.Calm)
    (hVolley : t.Volley t signals)
    (hMember : signal ∈ signals)
    (hFails : t.isFailedBy signal = true) :
    (t.serve signal).Alike Remark.isMilestone
        (t.serveAll signals) ∧
      t.Recovered (t.serveAll signals) := by
  have hGoverned : t.Governed config := by
    rw [hReached]
    exact governed_follow config moves
  have hRecovered :
      ∀ signal, t.isFailedBy signal = true →
        t.Recovered (t.serve signal) :=
    fun _ hOther =>
      recovered_serve hGoverned.sound hCalm hOther
  have hAlike :=
    hVolley.alike (.refl t) hRecovered hMember hFails
  exact ⟨hAlike, (hRecovered signal hFails).of_alike hAlike⟩

/-
  The watch of an open connection finds it silent in the
  instant in which its attempt ends, which is told twice; and
  a timer and a connect come too late or too early.
-/
theorem single_flight_silent_and_closed :
    ∃ t : Turn,
      t.client.link.phase = .opened ∧
        (t.serve (.act (.report 0 .closed))).Alike
            Remark.isMilestone
          (t.serveAll
            [.fireTimer 0, .fireAlarm 1 1,
              .act (.report 0 .closed), .act .connect,
              .act (.report 0 .closed)]) ∧
        t.Recovered
          (t.serveAll
            [.fireTimer 0, .fireAlarm 1 1,
              .act (.report 0 .closed), .act .connect,
              .act (.report 0 .closed)]) := by
  refine
    ⟨_, ?_,
      single_flight
        { (default : Config) with autoReconnect := true }
        [.act
            (.register .reconnecting [[.ask .isAlive, .panic]]),
          .step, .act .connect, .step, .begin,
          .act (.report 0 .opened), .step, .step]
        rfl ?_ ?_ (by simp) (by decide)⟩
  · decide
  · intro slot handler hGet
    cases slot with
    | reconnecting =>
        cases hGet
        rfl
    | _ => cases hGet
  · refine .late (.timer 0 (by decide)) ?_
    refine .failure (by decide) ?_
    refine .failure (by decide) ?_
    refine .late (.connect _ rfl) ?_
    exact .failure (by decide) (.nil _)

end Turn

end EventFeed
