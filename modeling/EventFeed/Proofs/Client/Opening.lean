import EventFeed.Proofs.Client.Mirror
import EventFeed.Proofs.Client.Outlook
import EventFeed.Proofs.Client.Past
import EventFeed.Proofs.Client.Shelter
import EventFeed.Proofs.Client.Silence

/-
  This file proves that an event may stand for the opening of
  its connection.

  An event that comes while the client connects opens the
  connection first and is looked at again when that has been
  told.  So it comes to what the opening and then the event
  come to, whatever the handlers do meanwhile.  The watch
  alone is reset once less, but no time has passed since its
  last reset, so it waits for the same instant.

  Both are looked at where handlers take no time.  In a run
  the clock may move on while a handler is at work; what is
  compared here is what is done at one instant.

  Key definitions include:
    * `Turn.tell`
    * `Turn.withResets`
    * `Turn.Tantamount`
    * `Turn.Upheld`

  Key results include:
    * `Turn.tell_event_eq_serve`
    * `Turn.upheld_tell`
    * `Turn.alike_tell_event`
    * `Turn.opened_by_event`
-/

------------------------------------------------------------
-- Another Count of Resets
------------------------------------------------------------

namespace EventFeed

/- The past of a watch that was reset so many times. -/
def Past.ofResets (n : UInt64) : Past :=
  ⟨0, 0, n, Tally.zero, []⟩

/- The link whose watch was reset so many times more. -/
def Link.withResets (l : Link) (n : UInt64) : Link :=
  { l with
    keepalive :=
      { l.keepalive with token := l.keepalive.token + n } }

theorem Link.after_ofResets (l : Link) (n : UInt64) :
    l.after (.ofResets n) = l.withResets n := by
  have hAlarm :
      Alarm.after (.ofResets n) = id := by
    funext alarm
    cases alarm <;> rfl
  have hTimer :
      ReconnectTimer.after (.ofResets n) = id := by
    funext timer
    simp [ReconnectTimer.after, Past.ofResets]
  simp only [after, withResets, Keepalive.after, hAlarm, hTimer]
  simp [Past.ofResets]

/-
  To reset the watch in the instant of its last reset is to
  count one reset more.
-/
theorem Link.arm_eq_withResets
    {l : Link}
    {now : Time}
    (hDue :
      l.keepalive.due? = some (now + l.keepalive.window)) :
    l.arm now = l.withResets 1 := by
  have hAlarm :
      l.keepalive.alarm =
        some (.waiting (now + l.keepalive.window)) := by
    unfold Keepalive.due? at hDue
    split at hDue
    · next due hWaiting =>
        rw [hWaiting, Option.some.inj hDue]
    · contradiction
  simp [arm, withResets, Keepalive.reset, hAlarm]

namespace Turn

/- The turn whose watch was reset so many times more. -/
def withResets (t : Turn) (n : UInt64) : Turn :=
  { t with
    client :=
      { t.client with link := t.client.link.withResets n } }

variable {t : Turn}

theorem after_ofResets (t : Turn) (n : UInt64) :
    t.after (.ofResets n) =
      { t.withResets n with
        agenda := t.agenda.map (Task.after (.ofResets n)) } := by
  have hTally :
      t.client.tally.after (.ofResets n) = t.client.tally := by
    simp [Tally.after, Past.ofResets, Tally.zero]
  have hSeen : Observation.after (.ofResets n) = id := by
    funext o
    cases o with
    | remark r =>
        cases r <;>
          simp [Observation.after, Remark.after, Past.ofResets]
    | _ => rfl
  simp only [after, withResets, Client.after,
    Link.after_ofResets, hTally, hSeen, List.map_id]
  simp [Past.ofResets]

theorem after_ofResets_of_done
    (hAgenda : t.agenda = [])
    (n : UInt64) :
    t.after (.ofResets n) = t.withResets n := by
  have hSame : (t.withResets n).agenda = [] := hAgenda
  rw [after_ofResets, hAgenda, List.map_nil, ← hSame]

/- Work comes to the same with a past or without one. -/
theorem alike_finish_after
    (p : Past)
    (keep : Remark → Bool)
    (t : Turn) :
    (t.after p).finish.Alike keep (t.finish.after p) := by
  induction t using step_induction with
  | hDone t hAgenda =>
      have hAgenda' : (t.after p).agenda = [] := by
        simp [after, hAgenda]
      rw [finish_of_agenda_eq_nil hAgenda,
        finish_of_agenda_eq_nil hAgenda']
      exact .refl _
  | hStep t hAgenda ih =>
      have hAgenda' : (t.after p).agenda ≠ [] := by
        simp [after, hAgenda]
      rw [finish_eq_finish_step hAgenda,
        finish_eq_finish_step hAgenda']
      exact (alike_step_after p t keep).finish.trans ih

end Turn

end EventFeed

------------------------------------------------------------
-- Tantamount Turns
------------------------------------------------------------

namespace EventFeed

/- Whether the remark is on something that still counts. -/
def Remark.isTimely (r : Remark) : Bool :=
  !r.isStale

theorem Remark.isTimely_of_isStale
    {r : Remark}
    (hStale : r.isStale = true) :
    r.isTimely = false := by
  rw [isTimely, hStale, Bool.not_true]

namespace Turn

/-
  Two turns come to the same: they differ in nothing but
  answers, remarks on what came too late and how often the
  watch was reset.  So there were the same calls in the same
  order, the connection is in the same state, and the same was
  counted.
-/
structure Tantamount (t t' : Turn) : Prop where
  alike :
    ∃ n, (t.withResets n).Alike Remark.isTimely t'
  hearings : t'.hearings = t.hearings
  phase : t'.client.link.phase = t.client.link.phase
  published :
    t'.client.link.published = t.client.link.published
  attempts : t'.client.link.attempts = t.client.link.attempts
  due :
    t'.client.link.keepalive.due? =
      t.client.link.keepalive.due?
  duration :
    ∀ now,
      t'.client.link.openFor now = t.client.link.openFor now
  tally : t'.client.tally = t.client.tally

variable {keep : Remark → Bool}
variable {t t' : Turn}

theorem hearings_gist (keep : Remark → Bool) (t : Turn) :
    (t.gist keep).hearings = t.hearings := by
  unfold hearings gist
  rw [← List.filterMap_reverse, List.filterMap_filterMap]
  congr 1
  funext o
  cases o with
  | remark r =>
      cases hKeep : keep r <;>
        simp [Observation.gist?, Observation.heard?, hKeep]
  | _ => rfl

theorem Alike.hearings (hAlike : t.Alike keep t') :
    t'.hearings = t.hearings := by
  rw [← hearings_gist keep t, ← hearings_gist keep t', hAlike]

theorem Tantamount.of_alike
    {n : UInt64}
    (hAlike : (t.withResets n).Alike Remark.isTimely t') :
    t.Tantamount t' where
  alike := ⟨n, hAlike⟩
  hearings := hAlike.hearings
  phase := by rw [hAlike.client]; rfl
  published := by rw [hAlike.client]; rfl
  attempts := by rw [hAlike.client]; rfl
  due := by rw [hAlike.client]; rfl
  duration := by
    intro now
    rw [hAlike.client]
    rfl
  tally := by rw [hAlike.client]; rfl

theorem withResets_zero (t : Turn) : t.withResets 0 = t := by
  simp [withResets, Link.withResets]

end Turn

end EventFeed

------------------------------------------------------------
-- Openings
------------------------------------------------------------

namespace EventFeed

namespace Turn

/-
  An attempt reports, and all is done that it leads to.  How a
  run comes to this is told by `follow_eq_serve`.  All of it
  is done at one instant: no time passes within a handler, as
  it may in a run.
-/
def tell (t : Turn) (attempt : Nat) (r : Report) : Turn :=
  t.serve (.act (.report attempt r))

/- The connection has opened, and the news is still owed. -/
def openedUp (t : Turn) : Turn :=
  Turn.reply
    (Turn.take { t with agenda := [] }
      (t.client.opening t.now []))
    .done

variable {t : Turn}
variable {attempt : Nat}
variable {generation : UInt64}

theorem isLive_iff :
    t.isLive generation = true ↔
      t.alive = true ∧
        t.client.link.isLive generation = true := by
  rw [isLive, Bool.and_eq_true]

theorem step_opened
    (hBegun : t.begun[attempt]? = some generation)
    (hLive : t.isLive generation = true)
    (hPhase : t.client.link.phase = .connecting) :
    (t.facing (.act (.report attempt .opened))).step =
      t.openedUp := by
  obtain ⟨hAlive, hLink⟩ := isLive_iff.mp hLive
  simp [facing, step, run, act, withAttempt, hBegun, hAlive,
    Client.report, hLink, hPhase, openedUp]

/- The event does the same and waits behind the news. -/
theorem step_event
    (hBegun : t.begun[attempt]? = some generation)
    (hLive : t.isLive generation = true)
    (hPhase : t.client.link.phase = .connecting)
    (e : Event) :
    (t.facing (.act (.report attempt (.event e)))).step =
      t.openedUp.lay [.owe (.deliver generation e)] := by
  obtain ⟨hAlive, hLink⟩ := isLive_iff.mp hLive
  simp [facing, step, run, act, withAttempt, hBegun, hAlive,
    Client.report, Client.takeEvent, hLink, hPhase, openedUp,
    lay, take, reply, Client.opening]

/-
  An event that opens the connection is looked at again when
  the opening has been told, and all is done that this led to.
-/
theorem tell_event_eq_serve
    (hBegun : t.begun[attempt]? = some generation)
    (hLive : t.isLive generation = true)
    (hPhase : t.client.link.phase = .connecting)
    (e : Event) :
    t.tell attempt (.event e) =
      (t.tell attempt .opened).serve
        (.owe (.deliver generation e)) := by
  have hSheltered : t.openedUp.Sheltered :=
    sheltered_take (t := { t with agenda := [] }) rfl _
  have hFacing :
      t.openedUp.finish.lay [.owe (.deliver generation e)] =
        (t.tell attempt .opened).facing
          (.owe (.deliver generation e)) := by
    rw [tell, serve_eq_finish_step,
      step_opened hBegun hLive hPhase, lay, agenda_finish]
    rfl
  rw [tell, serve_eq_finish_step,
    step_event hBegun hLive hPhase e, finish_lay hSheltered,
    hFacing]
  rfl

/- A call that an operation owes first is the next one. -/
theorem hearings_finish_take
    {o : Outcome}
    {c : Callback}
    {next : List Duty}
    (hOwed : o.owed = .call c :: next) :
    t.hearings ++
        [(c, o.client.handlers.isRegistered c.slot)] <+:
      (t.take o).finish.hearings := by
  have hAgenda :
      (t.take o).agenda =
        .owe (.call c) :: (next.map Task.owe ++ t.agenda) := by
    simp [take, hOwed]
  have hStep :
      (t.take o).step.hearings =
        t.hearings ++
          [(c, o.client.handlers.isRegistered c.slot)] := by
    rw [← hearings_take t o, step_of_cons hAgenda]
    cases hGet : o.client.handlers.get c.slot <;>
      simp [run, handCall, take, hGet, hearings,
        Registry.isRegistered, Observation.heard?]
  have hLater := (t.take o).step.seen_suffix_finish
  rw [← hStep, finish_eq_finish_step (by simp [hAgenda])]
  exact
    (List.reverse_prefix.mpr hLater).filterMap
      Observation.heard?

end Turn

end EventFeed

------------------------------------------------------------
-- Connections Kept Open
------------------------------------------------------------

namespace EventFeed

namespace Turn

/-
  The connection was torn down so many times since.  As long
  as it was not, it is open with a fresh window of silence.
-/
structure TornDown (t t' : Turn) (n : Nat) : Prop where
  teardowns : t'.teardowns = t.teardowns + n
  generation :
    t'.client.link.generation =
      t.client.link.generation + UInt64.ofNat n
  opened :
    n = 0 →
      t'.client.link.phase = .opened ∧
        t'.client.link.keepalive.due? =
          some (t.now + t.client.link.keepalive.window)

/-
  No time has passed since the connection was opened, and it
  is upheld unless it was torn down.
-/
structure Upheld (t t' : Turn) : Prop where
  now : t'.now = t.now
  begun : t'.begun = t.begun
  alive : t'.alive = t.alive
  window :
    t'.client.link.keepalive.window =
      t.client.link.keepalive.window
  tornDown : ∃ n, t.TornDown t' n

variable {t t' : Turn}
variable {attempt : Nat}
variable {generation : UInt64}

theorem orderly_openedUp (t : Turn) : t.openedUp.Orderly := by
  simp [Orderly, openedUp, take, reply, Client.opening]

theorem tornDown_openedUp (t : Turn) :
    t.TornDown t.openedUp 0 where
  teardowns := by
    have hMilestones :
        t.openedUp.milestones =
          (t.client.opening t.now []).milestones.reverse ++
            t.milestones := by
      rw [← milestones_take]
      exact List.filterMap_append
    rw [teardowns, hMilestones, Outcome.milestones_opening]
    rfl
  generation := (UInt64.add_zero _).symm
  opened := fun _ => ⟨rfl, rfl⟩

theorem upheld_openedUp (t : Turn) : t.Upheld t.openedUp where
  now := rfl
  begun := rfl
  alive := rfl
  window := rfl
  tornDown := ⟨0, t.tornDown_openedUp⟩

/- An operation tears the connection down or upholds it. -/
theorem Upheld.tornDown_of_acted
    {t'' : Turn}
    {task : Task}
    {o : Outcome}
    (hUpheld : t.Upheld t')
    (hActed : t'.Acted task o t'') :
    ∃ n, t.TornDown t'' n := by
  obtain ⟨n, hTeardowns, hGeneration, hOpened⟩ :=
    hUpheld.tornDown
  have hCount := hActed.countP_milestones Remark.isTeardown
  rcases hActed.effect.teardown_cases with
    ⟨hOne, hNext⟩ | ⟨hNone, hSame, _, hStays⟩
  · refine ⟨n + 1, ?_, ?_, fun hZero => by omega⟩
    · unfold teardowns at *
      omega
    · rw [hActed.client, hNext, hGeneration, UInt64.ofNat_add,
        UInt64.add_assoc]
      rfl
  · refine ⟨n, ?_, ?_, fun hZero => ?_⟩
    · unfold teardowns at *
      omega
    · rw [hActed.client, hSame, hGeneration]
    · obtain ⟨hPhase, hDue⟩ := hOpened hZero
      have hPhase' : o.client.link.phase = .opened :=
        hStays hPhase
      rw [hActed.client]
      refine ⟨hPhase', ?_⟩
      rcases hActed.effect.hearing_cases with
        ⟨hKept, _⟩ | ⟨hReset, _⟩ | ⟨hShut, _⟩
      · rw [hKept, hDue]
      · rw [hReset, ← hUpheld.now, ← hUpheld.window]
        rfl
      · contradiction

theorem Upheld.step
    (hOrderly : t'.Orderly)
    (hUpheld : t.Upheld t') :
    t.Upheld t'.step := by
  have hMoment := t'.momentary_step
  have hNow := hMoment.now.trans hUpheld.now
  have hBegun := t'.begun_step.trans hUpheld.begun
  have hAlive := hMoment.alive.trans hUpheld.alive
  rcases still_or_acted hOrderly (t'.change_move .step) with
    hStill | ⟨task, o, hActed⟩
  · obtain ⟨n, hTeardowns, hGeneration, hOpened⟩ :=
      hUpheld.tornDown
    have hLink : t'.step.client.link = t'.client.link :=
      hStill.link
    have hSame : t'.step.teardowns = t'.teardowns :=
      hStill.countP_milestones _
    rw [← hLink] at hGeneration hOpened
    refine ⟨hNow, hBegun, hAlive, ?_, n, ?_, hGeneration, hOpened⟩
    · rw [hLink, hUpheld.window]
    · rw [hSame, hTeardowns]
  · have hClient : t'.step.client = o.client := hActed.client
    refine
      ⟨hNow, hBegun, hAlive, ?_,
        hUpheld.tornDown_of_acted hActed⟩
    rw [hClient, hActed.effect.window_eq, hUpheld.window]

/- What the opening leads to upholds the connection. -/
theorem upheld_tell
    (hBegun : t.begun[attempt]? = some generation)
    (hLive : t.isLive generation = true)
    (hPhase : t.client.link.phase = .connecting) :
    t.Upheld (t.tell attempt .opened) := by
  have hFinish :
      t.openedUp.finish.Orderly ∧
        t.Upheld t.openedUp.finish := by
    refine
      finish_induction
        (P := fun t' => t'.Orderly ∧ t.Upheld t') ?_
        ⟨t.orderly_openedUp, t.upheld_openedUp⟩
    rintro t' ⟨hOrderly, hUpheld⟩
    exact ⟨orderly_move hOrderly .step, hUpheld.step hOrderly⟩
  obtain ⟨_, hNow, hStarted, hAlive, hWindow, n, hTorn⟩ :=
    hFinish
  rw [tell, serve_eq_finish_step,
    step_opened hBegun hLive hPhase]
  exact
    ⟨hNow, hStarted, hAlive, hWindow, n, hTorn.teardowns,
      hTorn.generation, hTorn.opened⟩

/-
  An attempt that is still live has its connection open, with
  a fresh window of silence.
-/
theorem Upheld.opened
    (hUpheld : t.Upheld t')
    (hLive : t.isLive generation = true)
    (hLive' : t'.isLive generation = true)
    (hTeardowns :
      t'.teardowns < t.teardowns + UInt64.size) :
    t'.client.link.phase = .opened ∧
      t'.client.link.keepalive.due? =
        some (t'.now + t'.client.link.keepalive.window) := by
  obtain ⟨n, hCount, hGeneration, hOpened⟩ := hUpheld.tornDown
  have hSame :
      t'.client.link.generation = t.client.link.generation := by
    rw [(Effect.manual_of_isLive (isLive_iff.mp hLive).2).1,
      (Effect.manual_of_isLive (isLive_iff.mp hLive').2).1]
  -- fewer teardowns than generations do not come full circle
  have hZero : n = 0 := by
    rw [hSame] at hGeneration
    have hNat := congrArg UInt64.toNat hGeneration
    rw [UInt64.toNat_add, UInt64.toNat_ofNat'] at hNat
    have hBound := t.client.link.generation.toNat_lt
    unfold UInt64.size at hTeardowns
    omega
  rw [hUpheld.now, hUpheld.window]
  exact hOpened hZero

end Turn

end EventFeed

------------------------------------------------------------
-- Events That Open
------------------------------------------------------------

namespace EventFeed

namespace Turn

variable {t : Turn}
variable {attempt : Nat}
variable {generation : UInt64}

/- An event whose attempt was retired is left undelivered. -/
theorem serve_deliver_of_retired
    (hRetired : t.client.link.isLive generation = false)
    (e : Event) :
    t.serve (.owe (.deliver generation e)) = t := by
  have hStep :
      (t.facing (.owe (.deliver generation e))).step =
        { t with agenda := [] } := by
    simp [facing, step, run, take, Client.perform, hRetired,
      Client.unchanged]
  rw [serve_eq_finish_step, hStep, finish_of_agenda_eq_nil rfl]

/- An event that is delivered is called for next. -/
theorem step_deliver
    (hLive : t.client.link.isLive generation = true)
    (e : Event) :
    (t.facing (.owe (.deliver generation e))).step =
      Turn.take { t with agenda := [] } (t.client.accept e) := by
  simp [facing, step, run, Client.perform, hLive]

theorem hearings_serve_deliver
    (hLive : t.client.link.isLive generation = true)
    (e : Event) :
    t.hearings ++
        [(e.callback,
          t.client.handlers.isRegistered e.callback.slot)] <+:
      (t.serve (.owe (.deliver generation e))).hearings := by
  rw [serve_eq_finish_step, step_deliver hLive]
  exact
    hearings_finish_take (t := { t with agenda := [] })
      (o := t.client.accept e) rfl

/-
  To report an event on an open connection whose watch has
  just been reset is to deliver it and to count one reset
  more.
-/
theorem step_event_of_opened
    (hBegun : t.begun[attempt]? = some generation)
    (hLive : t.isLive generation = true)
    (hPhase : t.client.link.phase = .opened)
    (hDue :
      t.client.link.keepalive.due? =
        some (t.now + t.client.link.keepalive.window))
    (e : Event) :
    (t.facing (.act (.report attempt (.event e)))).step =
      Turn.reply
        (Turn.after (.ofResets 1)
          (Turn.take { t with agenda := [] }
            (t.client.accept e)))
        .done := by
  obtain ⟨hAlive, hLink⟩ := isLive_iff.mp hLive
  have hArm :
      { t.client with link := t.client.link.arm t.now } =
        t.client.after (.ofResets 1) := by
    rw [Link.arm_eq_withResets hDue, ← Link.after_ofResets]
    simp [Client.after, Tally.after, Past.ofResets, Tally.zero]
  have hTake :=
    take_after (.ofResets 1) { t with agenda := [] }
      (Client.accept_after (.ofResets 1) t.client e)
  rw [← hTake, ← hArm, after_ofResets]
  simp [facing, step, run, act, withAttempt, hBegun, hAlive,
    Client.report, Client.takeEvent, hLink, hPhase, take,
    withResets]

theorem alike_tell_event
    (hBegun : t.begun[attempt]? = some generation)
    (hLive : t.isLive generation = true)
    (hPhase : t.client.link.phase = .opened)
    (hDue :
      t.client.link.keepalive.due? =
        some (t.now + t.client.link.keepalive.window))
    (keep : Remark → Bool)
    (e : Event) :
    Alike keep
      ((t.serve (.owe (.deliver generation e))).withResets 1)
      (t.tell attempt (.event e)) := by
  have hStep := step_event_of_opened hBegun hLive hPhase hDue e
  rw [tell, serve_eq_finish_step, serve_eq_finish_step, hStep,
    step_deliver (isLive_iff.mp hLive).2]
  generalize
    Turn.take { t with agenda := [] } (t.client.accept e) =
      accepted
  have hReply :
      (accepted.after (.ofResets 1)).Alike keep
        ((accepted.after (.ofResets 1)).reply .done) :=
    rfl
  have hAlike :
      (accepted.finish.withResets 1).Alike keep
        ((accepted.after (.ofResets 1)).reply .done).finish := by
    rw [← after_ofResets_of_done (agenda_finish accepted)]
    exact
      (alike_finish_after _ keep accepted).symm.trans
        hReply.finish
  exact hAlike.withAgenda rfl

/- The opening is told before anything else. -/
theorem hearings_tell_opened
    (hBegun : t.begun[attempt]? = some generation)
    (hLive : t.isLive generation = true)
    (hPhase : t.client.link.phase = .connecting) :
    t.hearings ++
        [(.opened, t.client.handlers.isRegistered .opened)] <+:
      (t.tell attempt .opened).hearings := by
  rw [tell, serve_eq_finish_step,
    step_opened hBegun hLive hPhase]
  exact
    hearings_finish_take
      (t := { t with agenda := [], answers := .done :: t.answers })
      (o := t.client.opening t.now []) rfl

/- On an open connection an opening is no news. -/
theorem tell_opened_of_opened
    (hBegun : t.begun[attempt]? = some generation)
    (hPhase : t.client.link.phase = .opened) :
    t.tell attempt .opened =
      { t with answers := .done :: t.answers } := by
  have hStep :
      (t.facing (.act (.report attempt .opened))).step =
        { t with agenda := [], answers := .done :: t.answers } := by
    simp only [facing, step, run, act, withAttempt, hBegun,
      Client.report, hPhase]
    split <;> simp [take, reply, Client.unchanged]
  rw [tell, serve_eq_finish_step, hStep,
    finish_of_agenda_eq_nil rfl]

/- Nor are any number of them. -/
theorem serveAll_opened_of_opened
    (hBegun : t.begun[attempt]? = some generation)
    (hPhase : t.client.link.phase = .opened)
    (n : Nat) :
    t.serveAll
        (List.replicate n (.act (.report attempt .opened))) =
      { t with
        answers := List.replicate n .done ++ t.answers } := by
  induction n generalizing t with
  | zero => rfl
  | succ n ih =>
      have hTold := tell_opened_of_opened hBegun hPhase
      have hRest :=
        ih (t := { t with answers := .done :: t.answers })
          hBegun hPhase
      rw [tell] at hTold
      rw [List.replicate_succ, serveAll_cons, hTold, hRest,
        List.replicate_succ', List.append_assoc]
      rfl

/-
  The event that an attempt reports while it connects is one
  that opens: it comes to what the opening and then the event
  come to.  The opening is told first.  If the attempt was
  retired by then, nothing is made of the event; if not, the
  connection is open and the event is called for next.
-/
structure OpensFirst
    (t : Turn)
    (attempt : Nat)
    (generation : UInt64)
    (e : Event) : Prop where
  tantamount :
    (t.tell attempt (.event e)).Tantamount
      ((t.tell attempt .opened).tell attempt (.event e))
  told :
    t.hearings ++
        [(.opened, t.client.handlers.isRegistered .opened)] <+:
      (t.tell attempt .opened).hearings
  retired :
    (t.tell attempt .opened).isLive generation = false →
      t.tell attempt (.event e) = t.tell attempt .opened
  delivered :
    (t.tell attempt .opened).isLive generation = true →
      (t.tell attempt .opened).client.link.phase = .opened ∧
        (t.tell attempt .opened).hearings ++
            [(e.callback,
              (t.tell attempt
                .opened).client.handlers.isRegistered
                e.callback.slot)] <+:
          (t.tell attempt (.event e)).hearings

/- An opening that retires its attempt is all there is. -/
theorem opensFirst_of_retired
    (hBegun : t.begun[attempt]? = some generation)
    (hLive : t.isLive generation = true)
    (hPhase : t.client.link.phase = .connecting)
    (hRetired :
      (t.tell attempt .opened).isLive generation = false)
    (e : Event) :
    t.OpensFirst attempt generation e := by
  have hUpheld := upheld_tell hBegun hLive hPhase
  have hLink :
      (t.tell attempt .opened).client.link.isLive generation =
        false := by
    rwa [isLive, hUpheld.alive, (isLive_iff.mp hLive).1,
      Bool.true_and] at hRetired
  have hDropped :
      t.tell attempt (.event e) = t.tell attempt .opened := by
    rw [tell_event_eq_serve hBegun hLive hPhase e,
      serve_deliver_of_retired hLink]
  have hLate :
      (t.tell attempt .opened).IsLate
        (.act (.report attempt (.event e))) := by
    refine .report attempt generation (.event e) ?_ hRetired
    rw [hUpheld.begun, hBegun]
  refine
    ⟨?_, hearings_tell_opened hBegun hLive hPhase,
      fun _ => hDropped, ?_⟩
  · rw [hDropped]
    refine .of_alike (n := 0) ?_
    rw [withResets_zero]
    exact hLate.alike_serve fun _ => Remark.isTimely_of_isStale
  · rw [hRetired]
    exact fun hNever => absurd hNever Bool.false_ne_true

/- After any other opening the event is delivered. -/
theorem opensFirst_of_live
    (hBegun : t.begun[attempt]? = some generation)
    (hLive : t.isLive generation = true)
    (hPhase : t.client.link.phase = .connecting)
    (hTeardowns :
      (t.tell attempt .opened).teardowns <
        t.teardowns + UInt64.size)
    (hLive' :
      (t.tell attempt .opened).isLive generation = true)
    (e : Event) :
    t.OpensFirst attempt generation e := by
  have hUpheld := upheld_tell hBegun hLive hPhase
  have hEvent := tell_event_eq_serve hBegun hLive hPhase e
  have hBegun' :
      (t.tell attempt .opened).begun[attempt]? =
        some generation := by
    rw [hUpheld.begun, hBegun]
  obtain ⟨hPhase', hDue⟩ :=
    hUpheld.opened hLive hLive' hTeardowns
  refine
    ⟨?_, hearings_tell_opened hBegun hLive hPhase, ?_,
      fun _ => ⟨hPhase', ?_⟩⟩
  · rw [hEvent]
    exact
      .of_alike
        (alike_tell_event hBegun' hLive' hPhase' hDue
          Remark.isTimely e)
  · rw [hLive']
    exact fun hNever => absurd hNever.symm Bool.false_ne_true
  · rw [hEvent]
    exact hearings_serve_deliver (isLive_iff.mp hLive').2 e

/-
  Whatever the handlers are and whatever they do, an event
  that is reported while its live attempt connects opens the
  connection first and then comes to what an opening and the
  event come to.  On an open connection any number of openings
  change nothing and call nobody; each is just answered.

  Generations wrap at sixty-four bits.  The bound says that
  they do not come full circle while the opening is told.
-/
theorem opened_by_event
    {t : Turn}
    {attempt : Nat}
    {generation : UInt64}
    (hBegun : t.begun[attempt]? = some generation)
    (hLive : t.isLive generation = true) :
    (t.client.link.phase = .connecting →
        (t.tell attempt .opened).teardowns <
            t.teardowns + UInt64.size →
          ∀ e, t.OpensFirst attempt generation e) ∧
      (t.client.link.phase = .opened →
        ∀ n,
          t.serveAll
              (List.replicate n
                (.act (.report attempt .opened))) =
            { t with
              answers :=
                List.replicate n .done ++ t.answers }) := by
  constructor
  · intro hPhase hTeardowns e
    cases hLive' :
        (t.tell attempt .opened).isLive generation with
    | false =>
        exact opensFirst_of_retired hBegun hLive hPhase hLive' e
    | true =>
        exact
          opensFirst_of_live hBegun hLive hPhase hTeardowns
            hLive' e
  · intro hPhase n
    exact serveAll_opened_of_opened hBegun hPhase n

/-
  The handler of the opening disconnects and connects at once.
  The first attempt is retired by that and its event dropped;
  the second one finds the handler used up, and its event is
  delivered.
-/
theorem opened_by_event_after_reconnect :
    ∃ t t' : Turn,
      t.client.link.phase = .connecting ∧
        (t.tell 0 .opened).isLive 1 = false ∧
        t.OpensFirst 0 1 default ∧
        t' = (t.tell 0 .opened).move .begin ∧
        t'.client.link.phase = .connecting ∧
        (t'.tell 1 .opened).isLive 3 = true ∧
        t'.OpensFirst 1 3 default ∧
        (t'.tell 1 .opened).serveAll
            (List.replicate 3 (.act (.report 1 .opened))) =
          { t'.tell 1 .opened with
            answers :=
              List.replicate 3 .done ++
                (t'.tell 1 .opened).answers } := by
  let t :=
    (fresh default).follow
      [.act (.register .opened [[.disconnect, .connect]]),
        .step, .act .connect, .step, .begin]
  let t' := (t.tell 0 .opened).move .begin
  have hFirst :=
    opened_by_event (t := t)
      (show t.begun[0]? = some 1 by decide) (by decide)
  have hSecond :=
    opened_by_event (t := t')
      (show t'.begun[1]? = some 3 by decide) (by decide)
  have hThird :=
    opened_by_event (t := t'.tell 1 .opened)
      (show (t'.tell 1 .opened).begun[1]? = some 3 by decide)
      (by decide)
  exact
    ⟨t, t', by decide, by decide,
      hFirst.1 (by decide) (by decide) default, rfl, by decide,
      by decide, hSecond.1 (by decide) (by decide) default,
      hThird.2 (by decide) 3⟩

end Turn

end EventFeed
