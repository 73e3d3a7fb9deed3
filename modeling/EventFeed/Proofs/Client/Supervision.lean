import EventFeed.Proofs.Client.Losses

/-
  This file proves what holds of a client at every point of
  every run, within its handlers as well.

  Three invariants carry the result.  The fields of a link
  agree with its phase.  The counter of reconnects counts the
  waits since the last connect or opening.  And generations
  count teardowns, so a handle on an attempt is dated by the
  teardowns that came before it: those of today belong to an
  active connection.

  The counter of reconnects has 32 bits.  Without a ceiling it
  wraps when as many attempts are lost in a row, and a client
  that waits then has counted no wait.

  Key definitions include:
    * `Link.Sound`
    * `Link.Budgeted`
    * `Turn.Dated`
    * `Turn.Supervised`

  Key results include:
    * `Effect.sound`
    * `Effect.teardown_cases`
    * `Turn.governed_follow`
    * `Turn.supervised_follow`
    * `Turn.attempts_lossMoves`
    * `Turn.exists_uncounted_wait`
-/

------------------------------------------------------------
-- Fields and Phase
------------------------------------------------------------

namespace EventFeed

namespace Link

/- The fields of a link agree with its phase. -/
structure Sound (config : Config) (l : Link) : Prop where
  published : l.published = l.phase
  timer : l.timer.isSome = true ↔ l.phase = .reconnecting
  timerDate :
    ∀ timer, l.timer = some timer →
      timer.generation = l.generation
  watch : l.keepalive.isArmed = true ↔ l.phase = .opened
  opening : l.openedAt.isSome = true ↔ l.phase = .opened
  transport :
    l.transport.isSome = true ↔ l.phase.isActive = true
  transportDate :
    ∀ generation, l.transport = some generation →
      generation = l.generation
  manual : l.manual = true → l.phase = .closed
  fresh : l.phase = .opened → l.attempts = 0
  recovery :
    l.phase = .reconnecting → config.autoReconnect = true

namespace Sound

variable {config : Config}
variable {l : Link}

theorem new (config : Config) :
    (Link.new config).Sound config := by
  constructor <;>
    simp [Link.new, Keepalive.new, Keepalive.isArmed,
      Phase.isActive]

/- Only a link that waits has a timer. -/
theorem timer_eq_none
    (hSound : l.Sound config)
    (hPhase : l.phase ≠ .reconnecting) :
    l.timer = none := by
  cases hTimer : l.timer with
  | none => rfl
  | some timer =>
      have hSome : l.timer.isSome = true := by
        rw [hTimer]
        rfl
      exact absurd (hSound.timer.mp hSome) hPhase

/- Only a closed link was closed by hand. -/
theorem manual_eq_false
    (hSound : l.Sound config)
    (hPhase : l.phase ≠ .closed) :
    l.manual = false := by
  rw [Bool.eq_false_iff]
  exact fun hManual => hPhase (hSound.manual hManual)

theorem start
    (now : Time)
    (hTimer : l.timer = none) :
    (l.start config now).1.Sound config := by
  constructor <;>
    simp [Link.start, enter, retire, hTimer,
      Keepalive.isArmed, Keepalive.stop, Phase.isActive]

theorem shut (config : Config) (l : Link) :
    l.shut.1.Sound config := by
  constructor <;>
    simp [Link.shut, enter, retire, Keepalive.isArmed,
      Keepalive.stop, Phase.isActive]

theorem openUp
    (hSound : l.Sound config)
    (now : Time)
    (hManual : l.manual = false)
    (hPhase : l.phase = .connecting) :
    (l.openUp config now).1.Sound config := by
  have hTimer : l.timer = none :=
    hSound.timer_eq_none (by simp [hPhase])
  have hTransport : l.transport.isSome = true :=
    hSound.transport.mpr (by simp [hPhase, Phase.isActive])
  constructor <;>
    simp [Link.openUp, arm, enter, hTimer, hManual,
      hTransport, Keepalive.isArmed, Keepalive.reset,
      Phase.isActive]
  exact hSound.transportDate

theorem arm
    (hSound : l.Sound config)
    (now : Time)
    (hPhase : l.phase = .opened) :
    (l.arm now).Sound config where
  published := hSound.published
  timer := hSound.timer
  timerDate := hSound.timerDate
  watch := by
    simp [Link.arm, hPhase, Keepalive.isArmed, Keepalive.reset]
  opening := hSound.opening
  transport := hSound.transport
  transportDate := hSound.transportDate
  manual := hSound.manual
  fresh := hSound.fresh
  recovery := hSound.recovery

/- Nothing is held of an attempt outside its phases. -/
theorem detach
    (hSound : l.Sound config)
    (hPhase : l.phase.isActive = false) :
    { l with transport := none }.Sound config where
  published := hSound.published
  timer := hSound.timer
  timerDate := hSound.timerDate
  watch := hSound.watch
  opening := hSound.opening
  transport := by simp [hPhase]
  transportDate := by simp
  manual := hSound.manual
  fresh := hSound.fresh
  recovery := hSound.recovery

theorem giveUp
    (hSound : l.Sound config)
    (why : Remark)
    (hPhase : l.phase.isActive = true) :
    (l.giveUp why).link.Sound config := by
  have hTimer : l.timer = none :=
    hSound.timer_eq_none fun hEq => by
      simp [hEq, Phase.isActive] at hPhase
  constructor <;>
    simp [Link.giveUp, enter, retire, hTimer,
      Keepalive.isArmed, Keepalive.stop, Phase.isActive]

theorem retry
    (now : Time)
    (hManual : l.manual = false)
    (hAuto : config.autoReconnect = true) :
    (l.retry config now).link.Sound config := by
  constructor <;>
    simp [Link.retry, enter, retire, hManual, hAuto,
      Keepalive.isArmed, Keepalive.stop, Phase.isActive]

end Sound

end Link

/- Every operation keeps the fields in agreement. -/
theorem Effect.sound
    {now : Time}
    {begun : Array UInt64}
    {c : Client}
    {task : Task}
    {o : Outcome}
    (hEffect : Effect now begun c task o)
    (hSound : c.link.Sound c.config) :
    o.client.link.Sound o.client.config := by
  cases hEffect with
  | connect hPhase =>
      rw [Client.connect_of_accepted now hPhase]
      refine Link.Sound.start now ?_
      apply hSound.timer_eq_none
      intro hEq
      simp [hEq, Phase.acceptsConnect] at hPhase
  | disconnect => exact Link.Sound.shut c.config c.link
  | opening attempt generation r next hBegun hLive hPhase =>
      exact
        hSound.openUp now (manual_of_isLive hLive).2 hPhase
  | event attempt generation e hBegun hLive hPhase =>
      exact hSound.arm now hPhase
  | detach attempt generation hBegun hLive hPhase =>
      exact hSound.detach hPhase
  | giveUp _ before why hBefore hManual hPhase =>
      exact hSound.giveUp why hPhase
  | retry _ before hBefore hManual hPhase hAuto =>
      exact Link.Sound.retry now hManual hAuto
  | restart => exact Link.Sound.start now rfl
  | _ => exact hSound

end EventFeed

------------------------------------------------------------
-- Counter of Reconnects
------------------------------------------------------------

namespace EventFeed

/-
  The counter of a link counts the waits of its history, and
  they stay within the ceiling.  The counter has 32 bits, so
  it is known modulo 2 ^ 32 only when there is no ceiling.
-/
structure Link.Budgeted
    (config : Config)
    (l : Link)
    (milestones : List Remark) : Prop where
  attempts : l.attempts = UInt32.ofNat (Remark.waits milestones)
  within :
    ∀ ceiling, config.maxAttempts = some ceiling →
      Remark.waits milestones ≤ ceiling.toNat
  waited :
    l.phase = .reconnecting → 1 ≤ Remark.waits milestones

namespace Link

namespace Budgeted

variable {config : Config}
variable {l : Link}
variable {earlier : List Remark}

/- A wait is counted once more, if the ceiling allows it. -/
theorem retry
    (hBudgeted : l.Budgeted config earlier)
    (now : Time)
    (interval : Span)
    (attempt : UInt32)
    (hBudget :
      ∀ ceiling, config.maxAttempts = some ceiling →
        l.attempts < ceiling) :
    (l.retry config now).link.Budgeted config
      (.waiting interval attempt :: earlier) where
  attempts := by
    show l.attempts + 1 = UInt32.ofNat (Remark.waits earlier + 1)
    rw [hBudgeted.attempts, UInt32.ofNat_add]
    rfl
  within := by
    intro ceiling hCeiling
    show Remark.waits earlier + 1 ≤ ceiling.toNat
    have hOld := hBudgeted.within ceiling hCeiling
    have hSpace := ceiling.toNat_lt
    have hLt :=
      UInt32.lt_iff_toNat_lt.mp (hBudget ceiling hCeiling)
    rw [hBudgeted.attempts, UInt32.toNat_ofNat'] at hLt
    omega
  waited := by
    intro _
    show 1 ≤ Remark.waits earlier + 1
    omega

/- Nothing but a wait leads to a link that waits. -/
theorem of_phase
    {l' : Link}
    {later : List Remark}
    (hBudgeted : l.Budgeted config earlier)
    (hAttempts : l'.attempts = l.attempts)
    (hWaits : Remark.waits later = Remark.waits earlier)
    (hPhase :
      l'.phase = .reconnecting → l.phase = .reconnecting) :
    l'.Budgeted config later where
  attempts := by
    rw [hAttempts, hWaits]
    exact hBudgeted.attempts
  within := by
    rw [hWaits]
    exact hBudgeted.within
  waited := by
    rw [hWaits]
    exact fun hNew => hBudgeted.waited (hPhase hNew)

/- A link with a fresh budget has not waited. -/
theorem of_fresh
    (hAttempts : l.attempts = 0)
    (hWaits : Remark.waits earlier = 0)
    (hPhase : l.phase ≠ .reconnecting) :
    l.Budgeted config earlier where
  attempts := by
    rw [hAttempts, hWaits]
    rfl
  within := by
    intro ceiling _
    rw [hWaits]
    exact Nat.zero_le _
  waited := fun hNew => absurd hNew hPhase

/- The counter is exact until it wraps. -/
theorem toNat_attempts
    (hBudgeted : l.Budgeted config earlier)
    (hFits : Remark.waits earlier < UInt32.size) :
    l.attempts.toNat = Remark.waits earlier := by
  rw [hBudgeted.attempts, UInt32.toNat_ofNat']
  exact Nat.mod_eq_of_lt hFits

/- With a ceiling the counter never wraps. -/
theorem waits_lt
    (hBudgeted : l.Budgeted config earlier)
    {ceiling : UInt32}
    (hCeiling : config.maxAttempts = some ceiling) :
    Remark.waits earlier < UInt32.size :=
  Nat.lt_of_le_of_lt (hBudgeted.within ceiling hCeiling)
    ceiling.toNat_lt

/- Nor does it without one while there were few waits. -/
theorem waits_lt_of_few
    (hBudgeted : l.Budgeted config earlier)
    (hFew :
      config.maxAttempts = none →
        Remark.waits earlier < UInt32.size) :
    Remark.waits earlier < UInt32.size := by
  cases hCeiling : config.maxAttempts with
  | none => exact hFew hCeiling
  | some ceiling => exact hBudgeted.waits_lt hCeiling

end Budgeted

end Link

/- Every operation keeps count of the waits. -/
theorem Effect.budgeted
    {now : Time}
    {begun : Array UInt64}
    {c : Client}
    {task : Task}
    {o : Outcome}
    {earlier : List Remark}
    (hEffect : Effect now begun c task o)
    (hBudgeted : c.link.Budgeted c.config earlier) :
    o.client.link.Budgeted o.client.config
      (o.milestones.reverse ++ earlier) := by
  cases hEffect with
  | nothing _ remarks hStale =>
      rw [Outcome.milestones,
        (Remark.silent_of_isStale hStale).1]
      exact hBudgeted
  | connect hPhase =>
      rw [Outcome.milestones_connect now hPhase,
        Client.connect_of_accepted now hPhase]
      exact .of_fresh rfl rfl (by simp)
  | disconnect =>
      rw [Outcome.milestones_disconnect]
      exact
        hBudgeted.of_phase rfl rfl (by simp [Client.disconnect])
  | opening attempt generation r next =>
      rw [Outcome.milestones_opening]
      exact .of_fresh rfl rfl (by simp [Client.opening])
  | event attempt generation e hBegun hLive hPhase =>
      rw [Outcome.milestones_accept]
      exact hBudgeted.of_phase rfl rfl id
  | giveUp _ before why hBefore hManual hPhase hWhy =>
      rw [Outcome.milestones_giveUp hBefore hWhy]
      refine hBudgeted.of_phase rfl ?_ (by simp)
      cases hWhy <;> rfl
  | retry _ before hBefore hManual hPhase hAuto hBudget =>
      rw [Outcome.milestones_retry now hBefore]
      exact hBudgeted.retry now _ _ hBudget
  | restart =>
      rw [Outcome.milestones_restart]
      exact hBudgeted.of_phase rfl rfl (by simp [Client.count])
  | delivery generation e =>
      rw [Outcome.milestones_accept]
      exact hBudgeted.of_phase rfl rfl id
  | error => exact hBudgeted
  | detach => exact hBudgeted.of_phase rfl rfl id
  | countPing => exact hBudgeted

end EventFeed

------------------------------------------------------------
-- Generations and Teardowns
------------------------------------------------------------

namespace EventFeed

namespace Effect

variable {now : Time}
variable {begun : Array UInt64}
variable {c : Client}
variable {task : Task}
variable {o : Outcome}

/-
  An operation retires the attempt once, and then it moves to
  the next generation; or it does not, and then a connection
  that is active or open remains so.
-/
theorem teardown_cases
    (hEffect : Effect now begun c task o) :
    (o.milestones.countP Remark.isTeardown = 1 ∧
        o.client.link.generation = c.link.generation + 1) ∨
      (o.milestones.countP Remark.isTeardown = 0 ∧
        o.client.link.generation = c.link.generation ∧
        (c.link.phase.isActive = true →
          o.client.link.phase.isActive = true) ∧
        (c.link.phase = .opened →
          o.client.link.phase = .opened)) := by
  cases hEffect with
  | nothing _ remarks hStale =>
      rw [Outcome.milestones,
        (Remark.silent_of_isStale hStale).1]
      exact Or.inr ⟨rfl, rfl, id, id⟩
  | connect hPhase =>
      rw [Outcome.milestones_connect now hPhase,
        Client.connect_of_accepted now hPhase]
      exact Or.inl ⟨rfl, rfl⟩
  | disconnect =>
      rw [Outcome.milestones_disconnect]
      exact Or.inl ⟨rfl, rfl⟩
  | opening attempt generation r next =>
      rw [Outcome.milestones_opening]
      exact Or.inr ⟨rfl, rfl, fun _ => rfl, fun _ => rfl⟩
  | event attempt generation e =>
      rw [Outcome.milestones_accept]
      exact Or.inr ⟨rfl, rfl, id, id⟩
  | giveUp _ before why hBefore hManual hPhase hWhy =>
      rw [Outcome.milestones_giveUp hBefore hWhy]
      refine Or.inl ⟨?_, rfl⟩
      cases hWhy <;> rfl
  | retry _ before hBefore =>
      rw [Outcome.milestones_retry now hBefore]
      exact Or.inl ⟨rfl, rfl⟩
  | restart =>
      rw [Outcome.milestones_restart]
      exact Or.inl ⟨rfl, rfl⟩
  | delivery generation e =>
      rw [Outcome.milestones_accept]
      exact Or.inr ⟨rfl, rfl, id, id⟩
  | error => exact Or.inr ⟨rfl, rfl, id, id⟩
  | detach => exact Or.inr ⟨rfl, rfl, id, id⟩
  | countPing => exact Or.inr ⟨rfl, rfl, id, id⟩

/- An event waits for delivery only after it opened. -/
theorem of_deliver
    (hEffect : Effect now begun c task o)
    {generation : UInt64}
    {e : Event}
    (hOwed : .deliver generation e ∈ o.owed) :
    generation ∈ begun ∧ o.client.link.phase = .opened := by
  cases hEffect with
  | opening attempt _ r next hBegun hLive hPhase hNext =>
      rcases hNext with rfl | ⟨_, rfl⟩
      · simp [Client.opening] at hOwed
      · simp only [Client.opening, List.mem_cons,
          Duty.deliver.injEq, List.not_mem_nil, or_false,
          reduceCtorEq, false_or] at hOwed
        rw [hOwed.1]
        exact ⟨Array.mem_of_getElem? hBegun, rfl⟩
  | connect hPhase =>
      rw [Client.connect_of_accepted now hPhase] at hOwed
      simp at hOwed
  | event =>
      simp only [Client.accept] at hOwed
      split at hOwed <;> simp at hOwed
  | delivery =>
      simp only [Client.accept] at hOwed
      split at hOwed <;> simp at hOwed
  | _ => simp [Client.disconnect] at hOwed

end Effect

namespace Turn

/-
  Generations count teardowns, so a handle on an attempt is
  dated by the teardowns before it.  If none came since, the
  connection is active; and it is open while an event that
  opened it waits for delivery.
-/
structure Dated (t : Turn) : Prop where
  current :
    t.client.link.generation = UInt64.ofNat t.teardowns
  begun :
    ∀ generation ∈ t.begun,
      generation.toNat ≤ t.teardowns ∧
        (generation.toNat = t.teardowns →
          t.client.link.phase.isActive = true)
  delivery :
    ∀ generation e, .owe (.deliver generation e) ∈ t.agenda →
      generation.toNat ≤ t.teardowns ∧
        (generation.toNat = t.teardowns →
          t.client.link.phase = .opened)

variable {t t' : Turn}

theorem Still.teardowns_eq
    (hStill : t.Still t') :
    t'.teardowns = t.teardowns :=
  hStill.countP_milestones Remark.isTeardown

/- The handle on the attempt whose task is held is of today. -/
theorem Dated.still
    (hDated : t.Dated)
    (hSound : t.client.link.Sound t.client.config)
    (hStill : t.Still t') :
    t'.Dated where
  current := by
    rw [hStill.link, hStill.teardowns_eq]
    exact hDated.current
  begun := by
    intro generation hMember
    rw [hStill.link, hStill.teardowns_eq]
    rcases hStill.begun with hSame | ⟨held, hHeld, hMore⟩
    · rw [hSame] at hMember
      exact hDated.begun generation hMember
    · rw [hMore, Array.mem_push] at hMember
      rcases hMember with hOld | rfl
      · exact hDated.begun generation hOld
      · constructor
        · rw [hSound.transportDate _ hHeld, hDated.current,
            UInt64.toNat_ofNat']
          exact Nat.mod_le _ _
        · intro _
          apply hSound.transport.mp
          rw [hHeld]
          rfl
  delivery := by
    intro generation e hMember
    rw [hStill.link, hStill.teardowns_eq]
    exact hDated.delivery generation e (hStill.owed _ hMember)

/- A teardown makes every handle one of the past. -/
theorem Dated.acted
    {task : Task}
    {o : Outcome}
    (hDated : t.Dated)
    (hActed : t.Acted task o t') :
    t'.Dated := by
  have hTeardowns :
      t'.teardowns =
        o.milestones.countP Remark.isTeardown + t.teardowns :=
    hActed.countP_milestones Remark.isTeardown
  rcases hActed.effect.teardown_cases with
    ⟨hOnce, hNext⟩ | ⟨hNone, hSame, hActive, hOpened⟩
  · rw [hOnce] at hTeardowns
    have hPast :
        ∀ n, n ≤ t.teardowns →
          n ≤ t'.teardowns ∧ n ≠ t'.teardowns := by
      intro n hLe
      omega
    refine ⟨?_, ?_, ?_⟩
    · rw [hActed.client, hNext, hDated.current, hTeardowns,
        Nat.add_comm 1, UInt64.ofNat_add]
      rfl
    · intro generation hMember
      rw [hActed.begun] at hMember
      have hOld := hPast _ (hDated.begun _ hMember).1
      exact ⟨hOld.1, fun hEq => absurd hEq hOld.2⟩
    · intro generation e hMember
      have hLe : generation.toNat ≤ t.teardowns := by
        rcases hActed.owed _ hMember with hNew | hOwed
        · have hBegun := (hActed.effect.of_deliver hNew).1
          exact (hDated.begun _ hBegun).1
        · exact (hDated.delivery _ _ hOwed).1
      have hOld := hPast _ hLe
      exact ⟨hOld.1, fun hEq => absurd hEq hOld.2⟩
  · rw [hNone, Nat.zero_add] at hTeardowns
    refine ⟨?_, ?_, ?_⟩
    · rw [hActed.client, hSame, hTeardowns]
      exact hDated.current
    · intro generation hMember
      rw [hActed.begun] at hMember
      have hOld := hDated.begun _ hMember
      rw [hTeardowns, hActed.client]
      exact ⟨hOld.1, fun hEq => hActive (hOld.2 hEq)⟩
    · intro generation e hMember
      rw [hTeardowns, hActed.client]
      rcases hActed.owed _ hMember with hNew | hOwed
      · have hFresh := hActed.effect.of_deliver hNew
        exact ⟨(hDated.begun _ hFresh.1).1, fun _ => hFresh.2⟩
      · have hOld := hDated.delivery _ _ hOwed
        exact ⟨hOld.1, fun hEq => hOpened (hOld.2 hEq)⟩

end Turn

end EventFeed

------------------------------------------------------------
-- Supervision
------------------------------------------------------------

namespace EventFeed

namespace Turn

/- What every operation keeps. -/
structure Governed (config : Config) (t : Turn) : Prop where
  configured : t.client.config = config
  sound : t.client.link.Sound config
  budgeted : t.client.link.Budgeted config t.milestones
  dated : t.Dated

variable {config : Config}
variable {t t' : Turn}

theorem governed_fresh (config : Config) :
    (fresh config).Governed config where
  configured := rfl
  sound := Link.Sound.new config
  budgeted :=
    .of_fresh rfl rfl (by simp [fresh, Client.new, Link.new])
  dated := ⟨rfl, by simp [fresh], by simp [fresh]⟩

theorem Governed.still
    (hGoverned : t.Governed config)
    (hStill : t.Still t') :
    t'.Governed config where
  configured := by
    rw [hStill.config]
    exact hGoverned.configured
  sound := by
    rw [hStill.link]
    exact hGoverned.sound
  budgeted := by
    rw [hStill.link, hStill.milestones]
    exact hGoverned.budgeted
  dated := by
    have hSound := hGoverned.sound
    rw [← hGoverned.configured] at hSound
    exact hGoverned.dated.still hSound hStill

theorem Governed.acted
    {task : Task}
    {o : Outcome}
    (hGoverned : t.Governed config)
    (hActed : t.Acted task o t') :
    t'.Governed config := by
  have hEffect := hActed.effect
  have hConfig : o.client.config = config := by
    rw [hEffect.config_eq]
    exact hGoverned.configured
  have hSound := hGoverned.sound
  have hBudgeted := hGoverned.budgeted
  rw [← hGoverned.configured] at hSound hBudgeted
  refine ⟨?_, ?_, ?_, hGoverned.dated.acted hActed⟩
  · rw [hActed.client]
    exact hConfig
  · rw [hActed.client, ← hConfig]
    exact hEffect.sound hSound
  · rw [hActed.client, hActed.milestones, ← hConfig]
    exact hEffect.budgeted hBudgeted

theorem Governed.follow
    (hGoverned : t.Governed config)
    (hOrderly : t.Orderly)
    (moves : List Move) :
    (t.follow moves).Governed config :=
  history_induction (P := Governed config)
    (fun _ _ hBefore hStill => hBefore.still hStill)
    (fun _ _ _ _ hBefore hActed => hBefore.acted hActed)
    hOrderly hGoverned moves

theorem governed_follow
    (config : Config)
    (moves : List Move) :
    ((fresh config).follow moves).Governed config :=
  (governed_fresh config).follow (orderly_fresh config) moves

/- What holds of a turn because a run has led to it. -/
theorem governed_of_reached
    {moves : List Move}
    (hReached : t = (fresh config).follow moves) :
    t.Orderly ∧ t.Governed config := by
  rw [hReached]
  exact
    ⟨orderly_follow (orderly_fresh config) moves,
      governed_follow config moves⟩

/-
  Whether a handle on an attempt of the generation is around:
  its task is held, or it has begun.
-/
def IsIssued (t : Turn) (generation : UInt64) : Prop :=
  generation ∈ t.begun ∨
    t.client.link.transport = some generation

/-
  What holds of the connection of a client.

  The counter of reconnects counts the waits in a row.  It is
  at least one during a wait, but it has 32 bits: when there
  is no ceiling, there must have been fewer waits in a row
  than it can count.
-/
structure Supervised (config : Config) (t : Turn) : Prop where
  link : t.client.link.Sound config
  counted :
    t.client.link.attempts = UInt32.ofNat t.retries
  waited :
    t.client.link.phase = .reconnecting →
      (config.maxAttempts = none → t.retries < UInt32.size) →
        1 ≤ t.client.link.attempts
  handles :
    ∀ generation, t.IsIssued generation →
      generation = t.client.link.generation →
        t.client.link.phase.isActive = true

/- A wait is counted while the counter has not wrapped. -/
theorem Governed.one_le_attempts
    (hGoverned : t.Governed config)
    (hPhase : t.client.link.phase = .reconnecting)
    (hFew :
      config.maxAttempts = none → t.retries < UInt32.size) :
    1 ≤ t.client.link.attempts := by
  have hBudgeted := hGoverned.budgeted
  have hFits := hBudgeted.waits_lt_of_few hFew
  rw [UInt32.le_iff_toNat_le, hBudgeted.toNat_attempts hFits]
  exact hBudgeted.waited hPhase

/- The counter has 32 bits for a row of losses. -/
theorem attempts_lossMoves
    (config : Config)
    (hAuto : config.autoReconnect = true)
    (hNone : config.maxAttempts = none)
    (interval : Span)
    (n : Nat) :
    ((fresh config).follow
        (lossRow interval n ++
          lossMoves n)).client.link.attempts =
      UInt32.ofNat (n + 1) := by
  have hLosing :=
    losing_follow_lossMoves config hAuto hNone interval n
  have hGoverned :=
    governed_follow config (lossRow interval n ++ lossMoves n)
  rw [hGoverned.budgeted.attempts, ← hLosing.retries]
  rfl

/- A handle of the current generation counts all teardowns. -/
theorem Dated.toNat_eq
    (hDated : t.Dated)
    (hTeardowns : t.teardowns < UInt64.size)
    {generation : UInt64}
    (hCurrent : generation = t.client.link.generation) :
    generation.toNat = t.teardowns := by
  rw [hCurrent, hDated.current, UInt64.toNat_ofNat']
  exact Nat.mod_eq_of_lt hTeardowns

/- Every point of every run is supervised. -/
theorem supervised_follow
    (config : Config)
    (moves : List Move)
    (hTeardowns :
      ((fresh config).follow moves).teardowns < UInt64.size) :
    ((fresh config).follow moves).Supervised config := by
  have hGoverned := governed_follow config moves
  constructor
  · exact hGoverned.sound
  · exact hGoverned.budgeted.attempts
  · exact hGoverned.one_le_attempts
  · intro generation hIssued hCurrent
    rcases hIssued with hBegun | hHeld
    · have hDate := hGoverned.dated.begun _ hBegun
      apply hDate.2
      exact hGoverned.dated.toNat_eq hTeardowns hCurrent
    · apply hGoverned.sound.transport.mp
      rw [hHeld]
      rfl

/-
  A connection opens with its first event and is lost while
  the handler of that event is still running.
-/
theorem supervised_follow_lost_in_handler :
    ∃ t : Turn,
      t =
          (fresh { (default : Config) with
              autoReconnect := true }).follow
            [.act (.register .message [[.report 0 .closed]]),
              .step, .act .connect, .step, .begin,
              .act (.report 0 (.event default)), .step, .step,
              .step, .step, .step] ∧
        t.teardowns = 2 ∧
        t.client.link.phase = .reconnecting ∧
        t.Supervised
          { (default : Config) with autoReconnect := true } := by
  refine ⟨_, rfl, by decide, by decide, ?_⟩
  exact supervised_follow _ _ (by decide)

/-
  Without a ceiling a client may lose as many attempts in a
  row as its counter has values.  It waits for the next one
  then, and the counter says that there was no wait.
-/
theorem exists_uncounted_wait :
    ∃ t : Turn,
      t =
          (fresh
              { (default : Config) with
                autoReconnect := true
                reconnectInterval := 1 }).follow
            (lossRow 1 (UInt32.size - 1) ++
              lossMoves (UInt32.size - 1)) ∧
        t.teardowns < UInt64.size ∧
        t.client.link.phase = .reconnecting ∧
        ¬ 1 ≤ t.client.link.attempts := by
  have hLosing :=
    losing_follow_lossMoves
      { (default : Config) with
        autoReconnect := true
        reconnectInterval := 1 }
      rfl rfl 1 (UInt32.size - 1)
  have hAttempts :=
    attempts_lossMoves
      { (default : Config) with
        autoReconnect := true
        reconnectInterval := 1 }
      rfl rfl 1 (UInt32.size - 1)
  refine ⟨_, rfl, ?_, hLosing.phase, ?_⟩
  · rw [hLosing.teardowns]
    decide
  · rw [hAttempts]
    decide

end Turn

end EventFeed
