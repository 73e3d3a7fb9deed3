import EventFeed.Proofs.Client.Failure
import EventFeed.Proofs.Client.Lateness
import EventFeed.Proofs.Client.Suppression

/-
  This file proves that every attempt is retired once.

  An attempt is retired by the report of its end, by the alarm
  of its watch, or by a disconnect.  Each of them finds the
  attempt current and leaves it out of date, and nothing else
  does; and what is out of date does not come back while the
  generations do not wrap.

  Key definitions include:
    * `Turn.started`
    * `Turn.Chronicled`
    * `Retirement`
    * `Turn.retirements`
    * `Turn.Recorded`

  Key results include:
    * `Turn.isLive_move_of_retirement`
    * `Turn.isLive_move_of_kept`
    * `Turn.recorded_follow`
-/

------------------------------------------------------------
-- Attempts Started
------------------------------------------------------------

namespace EventFeed

/- The generation of the attempt that was started. -/
def Remark.started? : Remark → Option UInt64
  | .starting _ generation => some generation
  | _ => none

namespace Turn

/- The generations of all attempts started so far. -/
def started (t : Turn) : List UInt64 :=
  t.milestones.filterMap Remark.started?

/-
  Attempts are dated by the teardowns up to their start.  The
  connection is active just as long as none came since.
-/
structure Chronicled (t : Turn) : Prop where
  dated :
    ∀ generation ∈ t.started,
      generation.toNat ≤ t.teardowns ∧
        (generation.toNat = t.teardowns →
          t.client.link.phase.isActive = true)
  current :
    t.client.link.phase.isActive = true →
      t.client.link.generation ∈ t.started

end Turn

/- What is started is current, and the connection is active. -/
theorem Effect.of_started
    {now : Time}
    {begun : Array UInt64}
    {c : Client}
    {task : Task}
    {o : Outcome}
    (hEffect : Effect now begun c task o)
    {generation : UInt64}
    (hStarted :
      generation ∈ o.milestones.filterMap Remark.started?) :
    generation = o.client.link.generation ∧
      o.client.link.phase.isActive = true := by
  cases hEffect with
  | nothing _ remarks hStale =>
      rw [Outcome.milestones,
        (Remark.silent_of_isStale hStale).1] at hStarted
      contradiction
  | connect hPhase =>
      rw [Outcome.milestones_connect now hPhase] at hStarted
      rw [Client.connect_of_accepted now hPhase]
      simp only [List.filterMap_cons, Remark.started?,
        List.filterMap_nil, List.mem_singleton] at hStarted
      exact ⟨hStarted, rfl⟩
  | disconnect =>
      rw [Outcome.milestones_disconnect] at hStarted
      contradiction
  | opening attempt _ r next =>
      rw [Outcome.milestones_opening] at hStarted
      contradiction
  | event attempt _ e =>
      rw [Outcome.milestones_accept] at hStarted
      contradiction
  | giveUp _ before why hBefore hManual hPhase hWhy =>
      rw [Outcome.milestones_giveUp hBefore hWhy] at hStarted
      cases hWhy <;> contradiction
  | retry _ before hBefore =>
      rw [Outcome.milestones_retry now hBefore] at hStarted
      contradiction
  | restart =>
      rw [Outcome.milestones_restart] at hStarted
      simp only [List.filterMap_cons, Remark.started?,
        List.filterMap_nil, List.mem_singleton] at hStarted
      exact ⟨hStarted, rfl⟩
  | delivery _ e =>
      rw [Outcome.milestones_accept] at hStarted
      contradiction
  | error => contradiction
  | detach => contradiction
  | countPing => contradiction

/- What is active was so before, or it was started. -/
theorem Effect.of_isActive
    {now : Time}
    {begun : Array UInt64}
    {c : Client}
    {task : Task}
    {o : Outcome}
    (hEffect : Effect now begun c task o)
    (hActive : o.client.link.phase.isActive = true) :
    (c.link.phase.isActive = true ∧
        o.client.link.generation = c.link.generation) ∨
      o.client.link.generation ∈
        o.milestones.filterMap Remark.started? := by
  cases hEffect with
  | connect hPhase =>
      rw [Outcome.milestones_connect now hPhase,
        Client.connect_of_accepted now hPhase]
      exact Or.inr (List.mem_singleton.mpr rfl)
  | disconnect => contradiction
  | opening attempt _ r next hBegun hLive hPhase =>
      refine Or.inl ⟨?_, rfl⟩
      rw [hPhase]
      rfl
  | giveUp => contradiction
  | retry => contradiction
  | restart =>
      rw [Outcome.milestones_restart]
      exact Or.inr (List.mem_singleton.mpr rfl)
  | _ => exact Or.inl ⟨hActive, rfl⟩

namespace Turn

variable {config : Config}
variable {t t' : Turn}

theorem Still.started
    (hStill : t.Still t') :
    t'.started = t.started := by
  unfold Turn.started
  rw [hStill.milestones]

theorem Acted.mem_started
    {task : Task}
    {o : Outcome}
    (hActed : t.Acted task o t')
    {generation : UInt64} :
    generation ∈ t'.started ↔
      generation ∈ o.milestones.filterMap Remark.started? ∨
        generation ∈ t.started := by
  unfold Turn.started
  rw [hActed.milestones, List.filterMap_append,
    List.filterMap_reverse, List.mem_append, List.mem_reverse]

theorem Chronicled.still
    (hChronicled : t.Chronicled)
    (hStill : t.Still t') :
    t'.Chronicled := by
  constructor
  · rw [hStill.started, hStill.link, hStill.teardowns_eq]
    exact hChronicled.dated
  · rw [hStill.started, hStill.link]
    exact hChronicled.current

theorem Chronicled.acted
    (hChronicled : t.Chronicled)
    (hGoverned : t'.Governed config)
    {task : Task}
    {o : Outcome}
    (hActed : t.Acted task o t') :
    t'.Chronicled := by
  have hTeardowns :
      t'.teardowns =
        o.milestones.countP Remark.isTeardown + t.teardowns :=
    hActed.countP_milestones Remark.isTeardown
  have hNew :
      ∀ generation ∈ o.milestones.filterMap Remark.started?,
        generation.toNat ≤ t'.teardowns ∧
          t'.client.link.phase.isActive = true := by
    intro generation hMember
    rcases hActed.effect.of_started hMember with
      ⟨hCurrent, hActive⟩
    rw [← hActed.client] at hCurrent hActive
    refine ⟨?_, hActive⟩
    rw [hCurrent, hGoverned.dated.current, UInt64.toNat_ofNat']
    exact Nat.mod_le _ _
  constructor
  · intro generation hMember
    rcases hActed.mem_started.mp hMember with hFirst | hOld
    · have hStarted := hNew generation hFirst
      exact ⟨hStarted.1, fun _ => hStarted.2⟩
    · have hBefore := hChronicled.dated generation hOld
      rcases hActed.effect.teardown_cases with
        ⟨hOnce, _⟩ | ⟨hNone, _, hActive, _⟩
      · constructor
        · omega
        · intro hSame
          omega
      · rw [hNone, Nat.zero_add] at hTeardowns
        rw [hTeardowns, hActed.client]
        exact ⟨hBefore.1, fun hSame => hActive (hBefore.2 hSame)⟩
  · intro hActive
    rw [hActed.client] at hActive ⊢
    rcases hActed.effect.of_isActive hActive with
      ⟨hBefore, hSame⟩ | hFirst
    · rw [hSame]
      exact
        hActed.mem_started.mpr
          (Or.inr (hChronicled.current hBefore))
    · exact hActed.mem_started.mpr (Or.inl hFirst)

theorem chronicled_fresh (config : Config) :
    (fresh config).Chronicled := by
  constructor
  · intro generation hMember
    contradiction
  · intro hActive
    contradiction

theorem Chronicled.follow
    (hChronicled : t.Chronicled)
    (hGoverned : t.Governed config)
    (hOrderly : t.Orderly)
    (moves : List Move) :
    (t.follow moves).Chronicled := by
  have hBoth :
      (t.follow moves).Governed config ∧
        (t.follow moves).Chronicled := by
    refine
      history_induction
        (P := fun t => t.Governed config ∧ t.Chronicled)
        ?_ ?_ hOrderly ⟨hGoverned, hChronicled⟩ moves
    · intro t t' hBefore hStill
      exact ⟨hBefore.1.still hStill, hBefore.2.still hStill⟩
    · intro t t' task o hBefore hActed
      have hGoverned := hBefore.1.acted hActed
      exact ⟨hGoverned, hBefore.2.acted hGoverned hActed⟩
  exact hBoth.2

end Turn

end EventFeed

------------------------------------------------------------
-- Retirements
------------------------------------------------------------

namespace EventFeed

/- What retires an attempt. -/
inductive Retirement
  /- its transport reports the end -/
  | ended (attempt : Nat)
  /- its watch finds it silent -/
  | silent (token : UInt64)
  /- the client is disconnected -/
  | disconnected
deriving DecidableEq, Inhabited, Repr

/- A failure moves on to the next generation. -/
theorem Link.generation_recover
    {l : Link}
    (config : Config)
    (now : Time)
    (hManual : l.manual = false)
    (hActive : l.phase.isActive = true) :
    (l.recover config now).link.generation =
      l.generation + 1 := by
  rcases l.recover_cases config now hManual hActive with
    ⟨why, _, hEq⟩ | ⟨_, _, hEq⟩
  · rw [hEq]
    rfl
  · rw [hEq]
    rfl

theorem Link.isLive_eq_false_of_generation
    {l : Link}
    {generation : UInt64}
    (hNext : l.generation = generation + 1) :
    l.isLive generation = false := by
  have hOther : l.generation ≠ generation := by
    rw [hNext]
    intro hSame
    have hNat := congrArg UInt64.toNat hSame
    rw [UInt64.toNat_add] at hNat
    have hLt := generation.toNat_lt
    simp at hNat
    omega
  simp [isLive, hOther]

namespace Turn

/-
  How an entry retires the attempt of a generation, if it
  does: the attempt must be current, and the connection
  active.
-/
def retirement?
    (t : Turn)
    (generation : UInt64)
    (task : Task) : Option Retirement :=
  if t.client.link.isLive generation &&
      t.client.link.phase.isActive then
    match task with
    | .act (.report attempt .closed) =>
        if t.alive && t.begun[attempt]? == some generation then
          some (.ended attempt)
        else
          none
    | .fireAlarm origin token =>
        if origin == generation &&
            t.client.link.keepalive.isCurrent token &&
            t.client.link.phase == .opened then
          some (.silent token)
        else
          none
    | .act .disconnect =>
        if t.held then some .disconnected else none
    | _ => none
  else
    none

/- How a move retires the attempt, if it does. -/
def retires?
    (t : Turn)
    (generation : UInt64) : Move → Option Retirement
  | .step =>
      match t.agenda with
      | task :: _ => t.retirement? generation task
      | [] => none
  | _ => none

/- All that retires the attempt along a run. -/
def retirements
    (t : Turn)
    (generation : UInt64) : List Move → List Retirement
  | [] => []
  | m :: moves =>
      (t.retires? generation m).toList ++
        (t.move m).retirements generation moves

variable {config : Config}
variable {t t' : Turn}
variable {generation : UInt64}
variable {r : Retirement}

/- Only the current attempt of a connection is retired. -/
theorem current_of_retirement
    {task : Task}
    (hRetires : t.retirement? generation task = some r) :
    t.client.link.isLive generation = true ∧
      t.client.link.phase.isActive = true := by
  unfold retirement? at hRetires
  split at hRetires
  · next hCurrent =>
      rw [Bool.and_eq_true] at hCurrent
      exact hCurrent
  · contradiction

theorem current_of_retires
    {m : Move}
    (hRetires : t.retires? generation m = some r) :
    t.client.link.isLive generation = true ∧
      t.client.link.phase.isActive = true := by
  cases m with
  | step =>
      simp only [retires?] at hRetires
      split at hRetires
      · exact current_of_retirement hRetires
      · contradiction
  | _ => contradiction

/- What retires an attempt is a failure or a disconnect. -/
theorem failed_or_disconnected_of_retirement
    {task : Task}
    (hRetires : t.retirement? generation task = some r) :
    t.isFailedBy task = true ∨
      (task = .act .disconnect ∧ t.held = true) := by
  have hCurrent := current_of_retirement hRetires
  have hLive := Effect.manual_of_isLive hCurrent.1
  unfold retirement? at hRetires
  rw [hCurrent.1, hCurrent.2] at hRetires
  simp only [Bool.and_self, if_true] at hRetires
  split at hRetires
  · next attempt =>
      split at hRetires
      · next hBegun =>
          rw [Bool.and_eq_true, beq_iff_eq] at hBegun
          refine Or.inl ?_
          simp [isFailedBy, Client.isFailedBy, hBegun.1,
            hBegun.2, hCurrent.1, hCurrent.2]
      · contradiction
  · next origin token =>
      split at hRetires
      · next hAlarm =>
          simp only [Bool.and_eq_true, beq_iff_eq] at hAlarm
          refine Or.inl ?_
          simp [isFailedBy, Client.isFailedBy, hAlarm.1.1,
            hAlarm.1.2, hAlarm.2, hLive.1, hLive.2]
      · contradiction
  · split at hRetires
    · next hHeld => exact Or.inr ⟨rfl, hHeld⟩
    · contradiction
  · contradiction

/- And every failure and disconnect retires the attempt. -/
theorem not_failed_of_retirement_eq_none
    {task : Task}
    (hLive : t.client.link.isLive generation = true)
    (hActive : t.client.link.phase.isActive = true)
    (hNone : t.retirement? generation task = none) :
    t.isFailedBy task = false ∧
      (task = .act .disconnect → t.held = false) := by
  have hCurrent := Effect.manual_of_isLive hLive
  unfold retirement? at hNone
  rw [hLive, hActive] at hNone
  simp only [Bool.and_self, if_true] at hNone
  constructor
  · rw [Bool.eq_false_iff]
    intro hFails
    rcases Effect.cases_of_isFailedBy (client_isFailedBy hFails)
      with ⟨attempt, other, rfl, hBegun, hOther, _⟩ |
        ⟨other, token, rfl, hToken, hOther, _, hPhase⟩
    · have hAlive : t.alive = true := by
        simp only [isFailedBy, Bool.and_eq_true] at hFails
        exact hFails.1
      have hSame : other = generation :=
        (Effect.manual_of_isLive hOther).1.symm.trans hCurrent.1
      simp [hAlive, hBegun, hSame] at hNone
    · have hSame : other = generation :=
        hOther.symm.trans hCurrent.1
      simp [hToken, hSame, hPhase] at hNone
  · rintro rfl
    simpa using hNone

/- An attempt that is retired is out of date. -/
theorem isLive_move_of_retirement
    (hOrderly : t.Orderly)
    {m : Move}
    (hRetires : t.retires? generation m = some r) :
    (t.move m).client.link.isLive generation = false := by
  cases m with
  | step =>
      simp only [retires?] at hRetires
      split at hRetires
      · next task rest hAgenda =>
          have hCurrent := current_of_retirement hRetires
          have hLive := Effect.manual_of_isLive hCurrent.1
          rcases failed_or_disconnected_of_retirement hRetires
            with hFails | ⟨rfl, hHeld⟩
          · rcases acted_of_isFailedBy hOrderly hAgenda hFails
              with ⟨before, _, hActed⟩
            apply Link.isLive_eq_false_of_generation
            rw [move, hActed.client, ← hLive.1]
            exact
              Link.generation_recover _ _ hLive.2 hCurrent.2
          · have hQuiet := (step_disconnect hAgenda hHeld).1
            exact
              Bool.eq_false_iff.mpr (hQuiet.not_isLive generation)
      · contradiction
  | _ => contradiction

end Turn

/-
  An active attempt stays current unless it fails or the
  client is disconnected.
-/
theorem Effect.keeps_current
    {now : Time}
    {begun : Array UInt64}
    {c : Client}
    {task : Task}
    {o : Outcome}
    (hEffect : Effect now begun c task o)
    (hActive : c.link.phase.isActive = true)
    (hFails : c.isFailedBy begun task = false)
    (hOther : task ≠ .act .disconnect) :
    o.client.link.generation = c.link.generation ∧
      o.client.link.manual = c.link.manual ∧
      o.client.link.phase.isActive = true := by
  cases hEffect with
  | connect hPhase =>
      cases hNow : c.link.phase <;>
        rw [hNow] at hActive hPhase <;> contradiction
  | disconnect => contradiction
  | opening => exact ⟨rfl, rfl, rfl⟩
  | detach _ _ _ _ hPhase =>
      rw [hActive] at hPhase
      contradiction
  | giveUp _ _ _ _ _ _ _ hFailed =>
      rw [hFails] at hFailed
      contradiction
  | retry _ _ _ _ _ _ _ hFailed =>
      rw [hFails] at hFailed
      contradiction
  | restart _ _ hPhase =>
      rw [hPhase] at hActive
      contradiction
  | _ => exact ⟨rfl, rfl, hActive⟩

namespace Turn

variable {config : Config}
variable {t t' : Turn}
variable {generation : UInt64}
variable {r : Retirement}

/- An attempt that is not retired stays current. -/
theorem isLive_move_of_kept
    (hOrderly : t.Orderly)
    {m : Move}
    (hLive : t.client.link.isLive generation = true)
    (hActive : t.client.link.phase.isActive = true)
    (hKept : t.retires? generation m = none) :
    (t.move m).client.link.isLive generation = true := by
  rcases move_cases hOrderly m with
    ⟨hTakes, _⟩ | ⟨_, hStill | ⟨task, o, hFails, hActed⟩⟩
  · -- a failure would retire it
    cases m with
    | step =>
        simp only [retires?] at hKept
        simp only [takesFailure] at hTakes
        split at hTakes
        · next task rest hAgenda =>
            rw [hAgenda] at hKept
            have hNone :=
              not_failed_of_retirement_eq_none hLive hActive
                hKept
            rw [hNone.1] at hTakes
            contradiction
        · contradiction
    | _ => contradiction
  · rw [hStill.link]
    exact hLive
  · by_cases hStep : m = .step
    · subst hStep
      rcases hActed.first with ⟨rest, hAgenda⟩
      simp only [retires?, hAgenda] at hKept
      have hNone :=
        not_failed_of_retirement_eq_none hLive hActive hKept
      by_cases hDisconnect : task = .act .disconnect
      · -- the handle was given up before
        have hHeld := hNone.2 hDisconnect
        rw [hDisconnect] at hAgenda
        simpa [move, step, hAgenda, run, act, ifHeld, hHeld,
          reply] using hLive
      · have hSame :=
          hActed.effect.keeps_current hActive hFails hDisconnect
        rw [hActed.client]
        simpa [Link.isLive, hSame.1, hSame.2.1] using hLive
    · rw [(still_move hOrderly hStep).link]
      exact hLive

------------------------------------------------------------
-- Each Attempt Once
------------------------------------------------------------

/-
  What has become of an attempt: it was not started yet, it is
  current and was not retired, or it was retired once.
-/
inductive Recorded
    (t : Turn)
    (generation : UInt64) :
    List Retirement → Prop
  | unborn
      (hUnborn : generation ∉ t.started) :
      Recorded t generation []
  | current
      (hStarted : generation ∈ t.started)
      (hLive : t.client.link.isLive generation = true) :
      Recorded t generation []
  | retired
      (r : Retirement)
      (hStarted : generation ∈ t.started)
      (hRetired : t.client.link.isLive generation = false) :
      Recorded t generation [r]

/- What is started remains so. -/
theorem started_subset_move
    (hOrderly : t.Orderly)
    (m : Move)
    (hStarted : generation ∈ t.started) :
    generation ∈ (t.move m).started := by
  rcases still_or_acted hOrderly (t.change_move m) with
    hStill | ⟨task, o, hActed⟩
  · rw [hStill.started]
    exact hStarted
  · exact hActed.mem_started.mpr (Or.inr hStarted)

/- An attempt that has just been started is current. -/
theorem isLive_move_of_started
    (hOrderly : t.Orderly)
    (hGoverned : (t.move m).Governed config)
    (hUnborn : generation ∉ t.started)
    (hStarted : generation ∈ (t.move m).started) :
    (t.move m).client.link.isLive generation = true := by
  rcases still_or_acted hOrderly (t.change_move m) with
    hStill | ⟨task, o, hActed⟩
  · rw [hStill.started] at hStarted
    contradiction
  · rcases hActed.mem_started.mp hStarted with hNew | hOld
    · rcases hActed.effect.of_started hNew with
        ⟨hCurrent, hActive⟩
      rw [← hActed.client] at hCurrent hActive
      rw [hCurrent]
      exact hGoverned.isLive_link hActive
    · contradiction

/- The attempt that is current belongs to an active connection. -/
theorem Chronicled.isActive
    (hChronicled : t.Chronicled)
    (hGoverned : t.Governed config)
    (hTeardowns : t.teardowns < UInt64.size)
    (hStarted : generation ∈ t.started)
    (hLive : t.client.link.isLive generation = true) :
    t.client.link.phase.isActive = true := by
  have hCurrent := (Effect.manual_of_isLive hLive).1
  apply (hChronicled.dated generation hStarted).2
  exact hGoverned.dated.toNat_eq hTeardowns hCurrent.symm

/- An attempt that is out of date does not come back. -/
theorem isLive_move_of_retired
    (hOrderly : t.Orderly)
    (hGoverned : t.Governed config)
    (hChronicled : t.Chronicled)
    (m : Move)
    (hTeardowns : (t.move m).teardowns < UInt64.size)
    (hStarted : generation ∈ t.started)
    (hRetired : t.client.link.isLive generation = false) :
    (t.move m).client.link.isLive generation = false := by
  have hLater : (t.move m).Governed config :=
    hGoverned.follow hOrderly [m]
  have hLe : t.teardowns ≤ (t.move m).teardowns :=
    countP_milestones_le_follow hOrderly Remark.isTeardown [m]
  have hDate := hChronicled.dated generation hStarted
  rw [Bool.eq_false_iff]
  intro hLive
  have hCurrent := (Effect.manual_of_isLive hLive).1
  have hToday :=
    hLater.dated.toNat_eq hTeardowns hCurrent.symm
  -- nothing was torn down in between
  have hSame : generation.toNat = t.teardowns := by omega
  have hNow : t.client.link.generation = generation := by
    rw [hGoverned.dated.current, ← hSame, UInt64.ofNat_toNat]
  have hStill := hGoverned.isLive_link (hDate.2 hSame)
  rw [hNow, hRetired] at hStill
  contradiction

theorem Recorded.move
    (hOrderly : t.Orderly)
    (hGoverned : t.Governed config)
    (hChronicled : t.Chronicled)
    (m : Move)
    (hTeardowns : (t.move m).teardowns < UInt64.size)
    {retirements : List Retirement}
    (hRecorded : t.Recorded generation retirements) :
    (t.move m).Recorded generation
      (retirements ++ (t.retires? generation m).toList) := by
  have hLater : (t.move m).Governed config :=
    hGoverned.follow hOrderly [m]
  have hLe : t.teardowns ≤ (t.move m).teardowns :=
    countP_milestones_le_follow hOrderly Remark.isTeardown [m]
  cases hKept : t.retires? generation m with
  | none =>
      rw [Option.toList_none, List.append_nil]
      cases hRecorded with
      | unborn hUnborn =>
          by_cases hStarted : generation ∈ (t.move m).started
          · refine .current hStarted ?_
            exact
              isLive_move_of_started hOrderly hLater hUnborn
                hStarted
          · exact .unborn hStarted
      | current hStarted hLive =>
          have hActive :=
            hChronicled.isActive hGoverned
              (Nat.lt_of_le_of_lt hLe hTeardowns) hStarted hLive
          refine
            .current (started_subset_move hOrderly m hStarted) ?_
          exact isLive_move_of_kept hOrderly hLive hActive hKept
      | retired r hStarted hRetired =>
          refine
            .retired r
              (started_subset_move hOrderly m hStarted) ?_
          exact
            isLive_move_of_retired hOrderly hGoverned hChronicled
              m hTeardowns hStarted hRetired
  | some r =>
      have hCurrent := current_of_retires hKept
      cases hRecorded with
      | unborn hUnborn =>
          have hHere := hChronicled.current hCurrent.2
          rw [(Effect.manual_of_isLive hCurrent.1).1] at hHere
          contradiction
      | current hStarted hLive =>
          refine
            .retired r
              (started_subset_move hOrderly m hStarted) ?_
          exact isLive_move_of_retirement hOrderly hKept
      | retired r hStarted hRetired =>
          rw [hRetired] at hCurrent
          exact absurd hCurrent.1 Bool.false_ne_true

theorem Recorded.follow
    (hOrderly : t.Orderly)
    (hGoverned : t.Governed config)
    (hChronicled : t.Chronicled)
    (moves : List Move)
    (hTeardowns : (t.follow moves).teardowns < UInt64.size)
    {retirements : List Retirement}
    (hRecorded : t.Recorded generation retirements) :
    (t.follow moves).Recorded generation
      (retirements ++ t.retirements generation moves) := by
  induction moves generalizing t retirements with
  | nil =>
      rw [Turn.retirements, List.append_nil]
      exact hRecorded
  | cons m moves ih =>
      rw [follow_cons] at hTeardowns ⊢
      have hOrderlyNext := orderly_move hOrderly m
      have hLe :
          (t.move m).teardowns ≤
            ((t.move m).follow moves).teardowns :=
        countP_milestones_le_follow hOrderlyNext
          Remark.isTeardown moves
      have hNext :=
        hRecorded.move hOrderly hGoverned hChronicled m
          (Nat.lt_of_le_of_lt hLe hTeardowns)
      rw [Turn.retirements, ← List.append_assoc]
      exact
        ih hOrderlyNext (hGoverned.follow hOrderly [m])
          (hChronicled.follow hGoverned hOrderly [m])
          hTeardowns hNext

/-
  Along a run an attempt stays current until the one thing
  that retires it.
-/
theorem recorded_follow
    (config : Config)
    (moves : List Move)
    (hTeardowns :
      ((fresh config).follow moves).teardowns < UInt64.size)
    (generation : UInt64) :
    ((fresh config).follow moves).Recorded generation
      ((fresh config).retirements generation moves) := by
  have hUnborn :
      (fresh config).Recorded generation [] :=
    .unborn List.not_mem_nil
  exact
    hUnborn.follow (orderly_fresh config)
      (governed_fresh config) (chronicled_fresh config) moves
      hTeardowns

end Turn

end EventFeed
