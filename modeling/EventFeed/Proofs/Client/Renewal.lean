import EventFeed.Proofs.Client.Past
import EventFeed.Proofs.Client.SingleFlight

/-
  This file proves that a client which is connected again is
  as good as new.

  Beside it stands a client with the same configuration and
  the same handlers that was never connected.  Once both have
  been connected, the one is the other with a past: nothing
  is left of the old connection but where clocks, generations,
  tokens and counts go on from.  From there on both do the
  same at the same time, whatever comes to them.

  Key definitions include:
    * `Past.undo`
    * `Turn.past`
    * `Turn.newborn`
    * `Turn.Renewed`

  Key results include:
    * `Turn.timely_after`
    * `Turn.chronicle_after`
    * `Turn.alike_step_newborn`
    * `Turn.renewed_follow`
-/

------------------------------------------------------------
-- Clocks with a Past
------------------------------------------------------------

namespace EventFeed

variable (p : Past)

theorem Keepalive.due?_after (k : Keepalive) :
    (k.after p).due? = k.due?.map (· + p.now) := by
  unfold due? after
  cases k.alarm with
  | none => rfl
  | some alarm => cases alarm <;> rfl

theorem Link.deadlines_after (l : Link) :
    (l.after p).deadlines = l.deadlines.map (· + p.now) := by
  have hWatch := l.keepalive.due?_after p
  have hTimer :
      (l.after p).timer = l.timer.map (ReconnectTimer.after p) :=
    rfl
  have hKeepalive :
      (l.after p).keepalive = l.keepalive.after p :=
    rfl
  unfold deadlines
  rw [hTimer, hKeepalive, hWatch]
  cases l.keepalive.due? <;> cases l.timer <;> rfl

/- Instants of one clock can be told apart as before. -/
theorem map_add_beq_after (due : Option Time) (now : Time) :
    (due.map (· + p.now) == some (now + p.now)) =
      (due == some now) := by
  cases due with
  | none => rfl
  | some instant =>
      rw [Bool.eq_iff_iff, beq_iff_eq, beq_iff_eq]
      simp

theorem Client.isResumedBy_after
    (c : Client)
    (generation : UInt64) :
    (c.after p).isResumedBy (generation + p.generation) =
      c.isResumedBy generation := by
  simp [isResumedBy, Link.after, add_beq_after]

theorem Client.isFailedBy_alarm_after
    (c : Client)
    (begun begun' : Array UInt64)
    (generation token : UInt64) :
    (c.after p).isFailedBy begun'
        (.fireAlarm (generation + p.generation)
          (token + p.token)) =
      c.isFailedBy begun (.fireAlarm generation token) := by
  have hCurrent :
      (c.link.after p).keepalive.isCurrent (token + p.token) =
        c.link.keepalive.isCurrent token :=
    c.link.keepalive.isCurrent_after p token
  have hSame :
      ((c.link.after p).generation ==
          generation + p.generation) =
        (c.link.generation == generation) :=
    add_beq_after _ _ _
  simp only [isFailedBy, link_after, hCurrent, hSame,
    Link.manual_after, Link.phase_after]

namespace Turn

variable (t : Turn)

theorem isPunctual_after (task : Task) :
    (t.after p).isPunctual (task.after p) =
      t.isPunctual task := by
  cases task with
  | fireTimer generation =>
      have hCounts :
          (t.after p).client.isResumedBy
              (generation + p.generation) =
            t.client.isResumedBy generation :=
        t.client.isResumedBy_after p generation
      have hDue :
          (t.after p).client.link.timer.map (·.due) =
            (t.client.link.timer.map (·.due)).map
              (· + p.now) := by
        cases hTimer : t.client.link.timer <;>
          simp [after, Link.after, ReconnectTimer.after, hTimer]
      have hNow : (t.after p).now = t.now + p.now := rfl
      simp only [isPunctual, Task.after]
      rw [hCounts, hDue, hNow, map_add_beq_after]
  | fireAlarm generation token =>
      have hCounts :
          (t.after p).client.isFailedBy (t.after p).begun
              (.fireAlarm (generation + p.generation)
                (token + p.token)) =
            t.client.isFailedBy t.begun
              (.fireAlarm generation token) :=
        t.client.isFailedBy_alarm_after p _ _ generation token
      have hDue :
          (t.after p).client.link.keepalive.due? =
            t.client.link.keepalive.due?.map (· + p.now) :=
        t.client.link.keepalive.due?_after p
      have hNow : (t.after p).now = t.now + p.now := rfl
      simp only [isPunctual, Task.after]
      rw [hCounts, hDue, hNow, map_add_beq_after]
  | _ => rfl

theorem isTimely_after (m : Move) :
    (t.after p).isTimely (m.after p) = t.isTimely m := by
  cases m with
  | step =>
      have hAgenda :
          (t.after p).agenda = t.agenda.map (Task.after p) :=
        rfl
      simp only [isTimely, Move.after, hAgenda]
      cases t.agenda with
      | nil => rfl
      | cons task rest => exact isPunctual_after p t task
  | wait span =>
      have hIdle :
          (t.after p).agenda.isEmpty = t.agenda.isEmpty :=
        List.isEmpty_map
      have hDue :
          (t.after p).client.link.deadlines =
            t.client.link.deadlines.map (· + p.now) :=
        t.client.link.deadlines_after p
      have hAlive : (t.after p).alive = t.alive := rfl
      have hNow : (t.after p).now = t.now + p.now := rfl
      have hAhead :
          (fun due => decide (t.now + p.now + span ≤ due)) ∘
              (· + p.now) =
            fun due => decide (t.now + span ≤ due) := by
        funext due
        rw [Function.comp_apply, decide_eq_decide,
          Nat.add_right_comm]
        exact Nat.add_le_add_iff_right
      simp only [isTimely, Move.after, hIdle, hDue, hAlive, hNow,
        List.all_map, hAhead]
  | _ => rfl

variable (keep : Remark → Bool)

theorem isTimely_gist (m : Move) :
    (t.gist keep).isTimely m = t.isTimely m := by
  cases m with
  | step =>
      simp only [isTimely, agenda_gist]
      cases t.agenda with
      | nil => rfl
      | cons task rest => cases task <;> rfl
  | wait span =>
      simp only [isTimely, agenda_gist, List.isEmpty_map]
      rfl
  | _ => rfl

variable {keep}
variable {t}
variable {t' u : Turn}

theorem Alike.isTimely
    (hAlike : t.Alike keep t')
    (m : Move) :
    t'.isTimely m = t.isTimely m := by
  rw [← isTimely_gist t keep, ← isTimely_gist t' keep, hAlike]

/- A run keeps to the clock with a past or without one. -/
theorem timely_after
    (hAlike : t.Alike keep (u.after p))
    (moves : List Move) :
    t.timely (moves.map (Move.after p)) = u.timely moves := by
  induction moves generalizing t u with
  | nil => rfl
  | cons m moves ih =>
      have hNext :=
        (hAlike.move (m.after p)).trans
          (alike_move_after p u keep m)
      rw [List.map_cons, timely, timely, ih hNext,
        ← hAlike.isTimely, isTimely_after]

end Turn

end EventFeed

------------------------------------------------------------
-- Stories with a Past
------------------------------------------------------------

namespace EventFeed

/- The signs of a past, in order. -/
def Past.signs (p : Past) : List Sign :=
  p.seen.reverse.filterMap Observation.sign?

namespace Turn

variable (p : Past)
variable {t t' u : Turn}

/- A story goes on from the past. -/
theorem story_after (t : Turn) :
    (t.after p).story = p.signs ++ t.story := by
  have hSign :
      Observation.sign? ∘ Observation.after p =
        Observation.sign? := by
    funext o
    cases o with
    | remark r => cases r <;> rfl
    | _ => rfl
  have hOwed : Task.sign? ∘ Task.after p = Task.sign? := by
    funext task
    cases task with
    | owe d => cases d <;> rfl
    | _ => rfl
  have hSeen :
      (t.after p).seen =
        t.seen.map (Observation.after p) ++ p.seen :=
    rfl
  have hAgenda :
      (t.after p).agenda = t.agenda.map (Task.after p) :=
    rfl
  rw [story, story, signs, signs, owedSigns, owedSigns, hSeen,
    hAgenda, List.reverse_append, ← List.map_reverse,
    List.filterMap_append, List.filterMap_map,
    List.filterMap_map, hSign, hOwed, List.append_assoc,
    Past.signs]

theorem Alike.story
    (hAlike : t.Alike Remark.isMilestone t') :
    t'.story = t.story := by
  have hGist :
      ∀ t : Turn,
        (t.gist Remark.isMilestone).owedSigns = t.owedSigns := by
    intro t
    have hOwed : Task.sign? ∘ Task.gist = Task.sign? := by
      funext task
      cases task <;> rfl
    rw [owedSigns, owedSigns, agenda_gist, List.filterMap_map,
      hOwed]
  rw [Turn.story, Turn.story, hAlike.signs, ← hGist t,
    ← hGist t', hAlike]

/- What shows of a run comes later by the time of the past. -/
theorem chronicle_after
    (hAlike : t.Alike Remark.isMilestone (u.after p))
    (moves : List Move) :
    t.chronicle (moves.map (Move.after p)) =
      (u.chronicle moves).map fun entry =>
        (entry.1 + p.now, entry.2) := by
  induction moves generalizing t u with
  | nil => rfl
  | cons m moves ih =>
      have hNext :=
        (hAlike.move (m.after p)).trans
          (alike_move_after p u Remark.isMilestone m)
      have hNow : t.now = u.now + p.now :=
        congrArg Turn.now hAlike
      have hStory : t.story = p.signs ++ u.story :=
        hAlike.story.symm.trans (story_after p u)
      have hLater :
          (t.move (m.after p)).story =
            p.signs ++ (u.move m).story :=
        hNext.story.symm.trans (story_after p (u.move m))
      have hNews : t.news (m.after p) = u.news m := by
        rw [news, news, hStory, hLater, List.length_append,
          List.drop_length_add_append]
      rw [List.map_cons, chronicle, chronicle, List.map_append,
        ih hNext, hNews, hNow, List.map_map]
      rfl

end Turn

end EventFeed

------------------------------------------------------------
-- New Clients
------------------------------------------------------------

namespace EventFeed

/- What takes a past off again, as far as it is a number. -/
def Past.undo (p : Past) : Past where
  now := 0
  generation := -p.generation
  token := -p.token
  tally := .zero
  seen := []

variable (p : Past)

theorem add_undo (a b : UInt64) : a + -b + b = a := by
  rw [UInt64.add_assoc, UInt64.add_left_neg, UInt64.add_zero]

theorem Task.after_undo (task : Task) :
    (task.after p.undo).after p = task := by
  cases task with
  | owe d =>
      cases d <;>
        simp only [after, Duty.after, Past.undo, add_undo]
  | _ => simp only [after, Past.undo, add_undo]

theorem Turn.Move.after_undo (m : Move) :
    (m.after p.undo).after p = m := by
  cases m <;> simp only [after, Past.undo, add_undo]

namespace Turn

/- What a turn has behind it. -/
def past (t : Turn) : Past where
  now := t.now
  generation := t.client.link.generation
  token := t.client.link.keepalive.token
  tally := t.client.tally
  seen := t.seen

/-
  A new client with the configuration and the handlers of the
  turn, at time zero.  The work under way is left to it as
  well.  So are the numbers of the attempts that have begun;
  there are none behind them, and what is reported for them
  is out of date.
-/
def newborn (t : Turn) : Turn :=
  { fresh t.client.config with
    begun := t.begun.map (· + t.past.undo.generation)
    client :=
      (Client.new t.client.config).withHandlers
        t.client.handlers
    agenda := t.agenda.map (Task.after t.past.undo) }

end Turn

end EventFeed

------------------------------------------------------------
-- The First Step
------------------------------------------------------------

namespace EventFeed

namespace Turn

variable {config : Config}
variable {t : Turn}
variable {rest : List Task}

/- The window of the watch is the one that was asked for. -/
theorem window_follow
    (config : Config)
    (moves : List Move) :
    ((fresh config).follow moves).client.link.keepalive.window =
      config.pingTimeout := by
  refine
    history_induction
      (P := fun t =>
        t.client.link.keepalive.window = config.pingTimeout)
      ?_ ?_ (orderly_fresh config) rfl moves
  · intro t t' hBefore hStill
    rw [hStill.link]
    exact hBefore
  · intro t t' task o hBefore hActed
    rw [hActed.client, hActed.effect.window_eq]
    exact hBefore

/- A client does not end while there is a handle on it. -/
theorem alive_of_held
    (config : Config)
    (moves : List Move) :
    ((fresh config).follow moves).held = true →
      ((fresh config).follow moves).alive = true := by
  refine
    follow_induction
      (P := fun t => t.held = true → t.alive = true)
      ?_ (fun _ => rfl) moves
  intro t m hBefore
  have hPut :
      ∀ task, (t.put task).held = true →
        (t.put task).alive = true := by
    intro task
    unfold put
    split <;> exact hBefore
  cases m with
  | step =>
      intro hHeld
      rw [move, t.momentary_step.alive]
      exact hBefore (t.momentary_step.held hHeld)
  | act a => exact hPut (.act a)
  | timer generation =>
      simp only [move]
      split
      · exact hPut _
      · exact hBefore
  | alarm generation token =>
      simp only [move]
      split
      · exact hPut _
      · exact hBefore
  | wait span => exact hBefore
  | begin =>
      simp only [move, beginAttempt]
      split
      · split <;> exact hBefore
      · exact hBefore
  | drop =>
      simp only [move]
      split
      · next hEnds =>
          rw [Bool.and_eq_true, Bool.not_eq_true'] at hEnds
          intro hHeld
          rw [hEnds.2] at hHeld
          contradiction
      · exact hBefore

/- An accepted connect starts the first or another life. -/
theorem step_connect
    (hAgenda : t.agenda = .act .connect :: rest)
    (hHeld : t.held = true)
    (hAccepted : t.client.connectRefusal? = none) :
    t.step =
      ({ t with agenda := rest }.take
        (t.client.connect t.now)).reply .accepted := by
  simp [step, hAgenda, run, act, ifHeld, hHeld, hAccepted]

/-
  Nothing of an old connection is left after a connect but
  the past.
-/
theorem client_connect_eq
    (hGoverned : t.Governed config)
    (hWindow :
      t.client.link.keepalive.window = config.pingTimeout)
    (hPhase : t.client.link.phase.acceptsConnect = true) :
    (t.client.connect t.now).client =
      (t.newborn.client.connect 0).client.after t.past := by
  have hTimer : t.client.link.timer = none := by
    apply hGoverned.sound.timer_eq_none
    intro hWaits
    simp [hWaits, Phase.acceptsConnect] at hPhase
  have hFirst :
      t.newborn.client.link.phase.acceptsConnect = true :=
    rfl
  rw [Client.connect_of_accepted t.now hPhase,
    Client.connect_of_accepted 0 hFirst]
  simp [newborn, past, Client.after, Client.withHandlers,
    Client.new, Link.new, Link.start, Link.enter, Link.retire,
    Link.after, Keepalive.after, Keepalive.stop, Keepalive.new,
    Tally.after, Tally.zero, hTimer, hWindow,
    hGoverned.configured]
  exact UInt64.add_comm _ _

/- What remains of the remarks of an operation. -/
theorem gist_remarks (o : Outcome) :
    (o.remarks.map Observation.remark).reverse.filterMap
        (Observation.gist? Remark.isMilestone) =
      (o.milestones.map Observation.remark).reverse := by
  have hGuard :
      Observation.gist? Remark.isMilestone ∘
          Observation.remark =
        fun r =>
          (Option.guard Remark.isMilestone r).map
            Observation.remark :=
    funext fun r => by
      cases hKeep : r.isMilestone <;>
        simp [Observation.gist?, Option.guard, hKeep]
  rw [← List.map_reverse, List.filterMap_map, hGuard,
    ← List.map_filterMap, List.filterMap_eq_filter,
    List.filter_reverse, List.map_reverse]
  rfl

/- Remarks of a past are left out like those of the present. -/
theorem gist_seen_after
    (p : Past)
    (seen : List Observation) :
    (seen.map (Observation.after p)).filterMap
        (Observation.gist? Remark.isMilestone) =
      (seen.filterMap
        (Observation.gist? Remark.isMilestone)).map
        (Observation.after p) := by
  have hGist :
      Observation.gist? Remark.isMilestone ∘
          Observation.after p =
        fun o =>
          (o.gist? Remark.isMilestone).map
            (Observation.after p) := by
    funext o
    cases o with
    | remark r => cases r <;> rfl
    | _ => rfl
  rw [List.filterMap_map, hGist, List.map_filterMap]

/- With the past before it the new client is the old one. -/
theorem alike_step_newborn
    (hGoverned : t.Governed config)
    (hWindow :
      t.client.link.keepalive.window = config.pingTimeout)
    (hAgenda : t.agenda = .act .connect :: rest)
    (hHeld : t.held = true)
    (hAlive : t.alive = true)
    (hAccepted : t.client.connectRefusal? = none) :
    t.step.Alike Remark.isMilestone
      (t.newborn.step.after t.past) := by
  have hAgenda' :
      t.newborn.agenda =
        .act .connect :: rest.map (Task.after t.past.undo) := by
    simp [newborn, hAgenda, Task.after]
  have hPhase := Client.acceptsConnect_of_accepted hAccepted
  have hPhase' :
      t.newborn.client.link.phase.acceptsConnect = true :=
    rfl
  have hClient := client_connect_eq hGoverned hWindow hPhase
  have hOwed : (t.client.connect t.now).owed = [] := by
    rw [Client.connect_of_accepted _ hPhase]
  have hOwed' :
      (t.newborn.client.connect t.newborn.now).owed = [] := by
    rw [Client.connect_of_accepted _ hPhase']
  have hUndo :
      Task.after t.past ∘ Task.after t.past.undo = id :=
    funext (Task.after_undo t.past)
  have hNumbers :
      ((· + t.past.generation) ∘
          (· + t.past.undo.generation) : UInt64 → UInt64) =
        id :=
    funext fun generation => add_undo generation _
  rw [step_connect hAgenda hHeld hAccepted,
    step_connect hAgenda' rfl rfl]
  simp only [Alike, gist, after, take, reply, Turn.mk.injEq]
  refine ⟨?_, ?_, ?_, ?_, ?_, ?_, ?_, ?_⟩
  · exact (Nat.zero_add t.now).symm
  · simp [newborn, hNumbers]
  · exact hAlive
  · exact hHeld
  · exact hClient
  · simp only [hOwed, hOwed', List.map_nil, List.nil_append,
      List.map_map, hUndo, List.map_id_fun, id]
  · trivial
  · rw [List.filterMap_append, gist_remarks,
      Outcome.milestones_connect _ hPhase,
      List.filterMap_append, gist_seen_after,
      List.filterMap_append, gist_remarks,
      Outcome.milestones_connect _ hPhase']
    rw [UInt64.add_comm t.client.link.generation]
    rfl

end Turn

end EventFeed

------------------------------------------------------------
-- Handles of the Past
------------------------------------------------------------

namespace EventFeed

namespace Turn

variable {config : Config}
variable {p : Past}
variable {t u : Turn}

/- Attempts that have begun keep their numbers. -/
theorem begun_follow
    (hOrderly : t.Orderly)
    {attempt : Nat}
    {generation : UInt64}
    (hBegun : t.begun[attempt]? = some generation)
    (moves : List Move) :
    (t.follow moves).begun[attempt]? = some generation := by
  refine
    history_induction
      (P := fun t => t.begun[attempt]? = some generation)
      ?_ ?_ hOrderly hBegun moves
  · intro t t' hBefore hStill
    rcases hStill.begun with hSame | ⟨held, _, hMore⟩
    · rw [hSame]
      exact hBefore
    · have hBound : attempt < t.begun.size :=
        (Array.getElem?_eq_some_iff.mp hBefore).1
      rw [hMore, Array.getElem?_push, if_neg (by omega)]
      exact hBefore
  · intro t t' task o hBefore hActed
    rw [hActed.begun]
    exact hBefore

/- No attempt of a client that may connect is live. -/
theorem isLive_of_acceptsConnect
    (hGoverned : t.Governed config)
    (hPhase : t.client.link.phase.acceptsConnect = true)
    (hTeardowns : t.teardowns < UInt64.size)
    {generation : UInt64}
    (hIssued : t.IsIssued generation) :
    t.isLive generation = false := by
  have hActive :=
    (hGoverned.active_of_isIssued hTeardowns hIssued).2
  rw [Bool.eq_false_iff]
  intro hLive
  rw [isLive, Bool.and_eq_true] at hLive
  have hCurrent := (Effect.manual_of_isLive hLive.2).1
  have hPhase' := hActive hCurrent.symm
  cases hNow : t.client.link.phase <;>
    simp_all [Phase.acceptsConnect, Phase.isActive]

end Turn

end EventFeed

------------------------------------------------------------
-- Renewal
------------------------------------------------------------

namespace EventFeed

namespace Turn

/-
  Two turns stay the same but for the past of the first one,
  along the given moves of it.  What comes of them at the end
  is called the old and the new.
-/
structure Renewed
    (p : Past)
    (t u : Turn)
    (moves : List Move)
    (old new : Turn) : Prop where
  /- timers are due at the same time since the past -/
  timely :
    t.timely moves =
      u.timely (moves.map (Move.after p.undo))
  /- and everything shows at the same time since the past -/
  chronicle :
    t.chronicle moves =
      (u.chronicle (moves.map (Move.after p.undo))).map
        fun entry => (entry.1 + p.now, entry.2)
  now : old.now = new.now + p.now
  published :
    old.client.link.published = new.client.link.published
  attempts :
    old.client.link.attempts = new.client.link.attempts
  openFor :
    old.client.link.openFor old.now =
      new.client.link.openFor new.now
  events :
    old.client.tally.events =
      new.client.tally.events + p.tally.events
  pings :
    old.client.tally.pings =
      new.client.tally.pings + p.tally.pings
  errors :
    old.client.tally.errors =
      new.client.tally.errors + p.tally.errors
  reconnects :
    old.client.tally.reconnects =
      new.client.tally.reconnects + p.tally.reconnects
  /- all in all, some remarks aside -/
  alike : old.Alike Remark.isMilestone (new.after p)

variable {config : Config}
variable {p : Past}
variable {t u : Turn}

theorem move_after_undo (moves : List Move) :
    (moves.map (Move.after p.undo)).map (Move.after p) =
      moves := by
  have hUndo : Move.after p ∘ Move.after p.undo = id :=
    funext (Move.after_undo p)
  rw [List.map_map, hUndo, List.map_id]

/- What is the same but for a past remains so. -/
theorem renewed_of_alike
    (hAlike : t.Alike Remark.isMilestone (u.after p))
    (moves : List Move) :
    Renewed p t u moves (t.follow moves)
      (u.follow (moves.map (Move.after p.undo))) := by
  have hTimely :=
    timely_after p hAlike (moves.map (Move.after p.undo))
  have hChronicle :=
    chronicle_after p hAlike (moves.map (Move.after p.undo))
  have hFollow :=
    hAlike.follow
      ((moves.map (Move.after p.undo)).map (Move.after p))
  have hRun :=
    hFollow.trans
      (alike_follow_after p u Remark.isMilestone
        (moves.map (Move.after p.undo)))
  rw [move_after_undo] at hTimely hChronicle hRun
  generalize u.follow (moves.map (Move.after p.undo)) = new
    at hRun
  have hNow : (t.follow moves).now = new.now + p.now :=
    congrArg Turn.now hRun
  have hClient := hRun.client
  refine
    ⟨hTimely, hChronicle, hNow, ?_, ?_, ?_, ?_, ?_, ?_, ?_, hRun⟩
  · exact congrArg (·.link.published) hClient.symm
  · exact congrArg (·.link.attempts) hClient.symm
  · rw [hNow, ← hClient]
    exact new.client.link.openFor_after p new.now
  · exact congrArg (·.tally.events) hClient.symm
  · exact congrArg (·.tally.pings) hClient.symm
  · exact congrArg (·.tally.errors) hClient.symm
  · exact congrArg (·.tally.reconnects) hClient.symm

/- Attempts of the past are live for neither of the two. -/
theorem isLive_of_past
    {t₀ old new : Turn}
    (hOrderly : t₀.Orderly)
    (hGoverned : t₀.Governed config)
    (hPhase : t₀.client.link.phase.acceptsConnect = true)
    {moves : List Move}
    (hOld : old = t₀.follow moves)
    (hAlike : old.Alike Remark.isMilestone (new.after p))
    (hTeardowns : old.teardowns < UInt64.size)
    {attempt : Nat}
    {generation : UInt64}
    (hPast : attempt < t₀.begun.size)
    (hBegun : new.begun[attempt]? = some generation) :
    new.isLive generation = false := by
  have hSome :
      t₀.begun[attempt]? = some t₀.begun[attempt] :=
    Array.getElem?_eq_getElem hPast
  have hKept := begun_follow hOrderly hSome moves
  have hSame :
      old.begun[attempt]? =
        some (generation + p.generation) := by
    rw [← hAlike.begun]
    show (new.begun.map (· + p.generation))[attempt]? = _
    rw [Array.getElem?_map, hBegun]
    rfl
  rw [← hOld, hSame, Option.some.injEq] at hKept
  subst hOld
  have hLe :
      t₀.teardowns ≤ (t₀.follow moves).teardowns :=
    countP_milestones_le_follow hOrderly Remark.isTeardown moves
  have hIssued : t₀.IsIssued t₀.begun[attempt] :=
    Or.inl (Array.getElem_mem hPast)
  have hLater :=
    isLive_follow hOrderly hGoverned moves hTeardowns hIssued
      (isLive_of_acceptsConnect hGoverned hPhase (by omega)
        hIssued)
  have hAlive : new.alive = (t₀.follow moves).alive :=
    hAlike.alive
  rw [← hKept, isLive, ← hAlike.client, ← hAlive] at hLater
  rw [isLive, ← new.client.link.isLive_after p]
  exact hLater

/-
  From its connect on a client of any history is the same as
  a new one, but for its past: as the past ends with the
  connect, whatever shows of the one shows of the other at the
  same time since.  For attempts of before neither of them
  accepts a report any more, while generations do not wrap.
-/
theorem renewed_follow
    (config : Config)
    (before after : List Move)
    {t₀ old new : Turn}
    {rest : List Task}
    (hReached : t₀ = (fresh config).follow before)
    (hAgenda : t₀.agenda = .act .connect :: rest)
    (hHeld : t₀.held = true)
    (hAccepted : t₀.client.connectRefusal? = none)
    (hOld : old = t₀.step.follow after)
    (hNew :
      new =
        t₀.newborn.step.follow
          (after.map (Move.after t₀.past.undo))) :
    Renewed t₀.past t₀.step t₀.newborn.step after old new ∧
      (old.teardowns < UInt64.size →
        ∀ attempt generation, attempt < t₀.begun.size →
          new.begun[attempt]? = some generation →
            new.isLive generation = false) := by
  rcases governed_of_reached hReached with ⟨hOrderly, hGoverned⟩
  have hWindow :
      t₀.client.link.keepalive.window = config.pingTimeout := by
    rw [hReached]
    exact window_follow config before
  have hAlive : t₀.alive = true := by
    rw [hReached] at hHeld ⊢
    exact alive_of_held config before hHeld
  have hAlike :=
    alike_step_newborn hGoverned hWindow hAgenda hHeld hAlive
      hAccepted
  have hRenewed := renewed_of_alike hAlike after
  rw [← hOld, ← hNew] at hRenewed
  refine ⟨hRenewed, ?_⟩
  intro hTeardowns attempt generation hPast hBegun
  have hPhase := Client.acceptsConnect_of_accepted hAccepted
  have hRun : old = t₀.follow (.step :: after) := hOld
  exact
    isLive_of_past hOrderly hGoverned hPhase hRun hRenewed.alike
      hTeardowns hPast hBegun

/-
  A client without recovery lost its connection after thirty
  milliseconds and is connected again.  The second attempt
  opens after five milliseconds; seven more are waited.
-/
theorem renewed_follow_after_loss :
    ∃ t₀ old new : Turn,
      t₀.now = 30 ∧
        t₀.client.link.phase = .closed ∧
        t₀.client.link.generation = 2 ∧
        old.client.link.openFor old.now = 7 ∧
        Renewed t₀.past t₀.step t₀.newborn.step
          [.begin, .wait 5, .act (.report 1 .opened), .step,
            .step, .wait 7]
          old new ∧
        new.isLive (1 + t₀.past.undo.generation) = false := by
  have hBoth :=
    renewed_follow default
      [.act .connect, .step, .begin, .act (.report 0 .opened),
        .step, .step, .wait 30, .act (.report 0 .closed),
        .step, .step, .act .connect]
      [.begin, .wait 5, .act (.report 1 .opened), .step, .step,
        .wait 7]
      rfl rfl rfl rfl rfl rfl
  exact
    ⟨_, _, _, rfl, rfl, rfl, rfl, hBoth.1,
      hBoth.2 (by decide) 0 _ (by decide) (by decide +kernel)⟩

end Turn

end EventFeed
