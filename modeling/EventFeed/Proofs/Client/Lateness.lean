import EventFeed.Proofs.Client.Clock
import EventFeed.Proofs.Client.Likeness
import EventFeed.Proofs.Client.Supervision

/-
  This file proves that what comes too late does not show.

  A report of an attempt that is not live, a timer or an alarm
  that is not current, and a connect that is refused change
  nothing but answers and remarks on their lateness.  So a run
  with such entries in between goes on as it does without
  them.

  What is out of date remains so.  Generations count the
  teardowns and tokens the resets of the watch, so neither
  comes back while its counter does not wrap.

  Key definitions include:
    * `Turn.isLive`
    * `Turn.IsLate`
    * `Turn.Padded`
    * `Turn.Outlived`

  Key results include:
    * `Turn.IsLate.alike`
    * `Turn.Padded.alike`
    * `Turn.outlived_follow`
    * `Turn.unobserved_follow`
-/

------------------------------------------------------------
-- Late Entries
------------------------------------------------------------

namespace EventFeed

/- Whether the remark is for more than debugging. -/
def Remark.isLoud (r : Remark) : Bool :=
  r.level != .debug

theorem Remark.isLoud_of_isStale
    {r : Remark}
    (hStale : r.isStale = true) :
    r.isLoud = false := by
  cases r <;> first | rfl | contradiction

/-
  The operation left the client as it was, and remarked at
  most that it came too late.
-/
def Client.Unmoved (c : Client) (o : Outcome) : Prop :=
  ∃ remarks : List Remark,
    (∀ r ∈ remarks, r.isStale = true) ∧ o = ⟨c, remarks, []⟩

namespace Client.Unmoved

variable {c : Client}

theorem unchanged (c : Client) : c.Unmoved c.unchanged :=
  ⟨[], by simp, rfl⟩

theorem remarked
    (c : Client)
    {r : Remark}
    (hStale : r.isStale = true) :
    c.Unmoved (c.remarked r) :=
  ⟨[r], by simpa using hStale, rfl⟩

theorem report
    (now : Time)
    {generation : UInt64}
    (hRetired : c.link.isLive generation = false)
    (r : Report) :
    c.Unmoved (c.report now generation r) := by
  cases r with
  | opened =>
      simp only [Client.report, hRetired]
      exact unchanged c
  | event e =>
      simp only [Client.report, takeEvent, hRetired]
      exact remarked c rfl
  | error e =>
      simp only [Client.report, takeError, hRetired]
      exact remarked c rfl
  | closed =>
      simp only [Client.report, takeEnd, hRetired]
      exact unchanged c

theorem fireTimer
    (now : Time)
    {generation : UInt64}
    (hPast : c.link.generation ≠ generation) :
    c.Unmoved (c.fireTimer now generation) := by
  simp only [Client.fireTimer, bne_iff_ne.mpr hPast,
    Bool.or_true, if_true]
  exact remarked c rfl

theorem fireAlarm
    (now : Time)
    {generation token : UInt64}
    (hPast :
      c.link.keepalive.isCurrent token = false ∨
        c.link.generation ≠ generation) :
    c.Unmoved (c.fireAlarm now generation token) := by
  have hLate :
      (!c.link.keepalive.isCurrent token ||
        c.link.generation != generation) = true := by
    rcases hPast with hToken | hGeneration
    · rw [hToken]
      rfl
    · rw [bne_iff_ne.mpr hGeneration, Bool.or_true]
  simp only [Client.fireAlarm, hLate, Bool.true_or, if_true]
  exact ⟨_, by simp [Remark.isStale], rfl⟩

end Client.Unmoved

namespace Turn

/-
  Whether reports from the attempt of a generation are
  accepted.  None are once the client has ended.
-/
def isLive (t : Turn) (generation : UInt64) : Bool :=
  t.alive && t.client.link.isLive generation

/- An entry that is out of date when it comes. -/
inductive IsLate (t : Turn) : Task → Prop
  /- a report of an attempt that is not live -/
  | report
      (attempt : Nat)
      (generation : UInt64)
      (r : Report)
      (hBegun : t.begun[attempt]? = some generation)
      (hRetired : t.isLive generation = false) :
      IsLate t (.act (.report attempt r))
  /- a reconnect timer that is not current -/
  | timer
      (generation : UInt64)
      (hPast : t.client.link.generation ≠ generation) :
      IsLate t (.fireTimer generation)
  /- an alarm that is not current -/
  | alarm
      (generation token : UInt64)
      (hPast :
        t.client.link.keepalive.isCurrent token = false ∨
          t.client.link.generation ≠ generation) :
      IsLate t (.fireAlarm generation token)
  /- a connect that is refused -/
  | connect
      (e : FeedError)
      (hRefused : t.client.connectRefusal? = some e) :
      IsLate t (.act .connect)

variable {keep : Remark → Bool}
variable {t t' : Turn}

/- An operation that leaves the client leaves the turn. -/
theorem alike_take
    (hKeep : ∀ r, r.isStale = true → keep r = false)
    {o : Outcome}
    (hUnmoved : t.client.Unmoved o) :
    t.Alike keep (t.take o) := by
  rcases hUnmoved with ⟨remarks, hStale, rfl⟩
  have hNone :
      (remarks.map Observation.remark).reverse.filterMap
          (Observation.gist? keep) = [] := by
    rw [List.filterMap_eq_nil_iff]
    intro o hMember
    rw [List.mem_reverse, List.mem_map] at hMember
    rcases hMember with ⟨r, hRemark, rfl⟩
    simp [Observation.gist?, hKeep r (hStale r hRemark)]
  simp [Alike, gist, take, hNone]

/- A late entry shows in nothing but stale remarks. -/
theorem IsLate.alike
    (hKeep : ∀ r, r.isStale = true → keep r = false)
    {task : Task}
    (hLate : t.IsLate task) :
    t.Alike keep (t.run task) := by
  cases hLate with
  | report attempt generation r hBegun hRetired =>
      simp only [run, act, withAttempt, hBegun]
      cases hAlive : t.alive with
      | true =>
          have hLink :
              t.client.link.isLive generation = false := by
            simpa [isLive, hAlive] using hRetired
          exact
            alike_take hKeep
              (Client.Unmoved.report t.now hLink r)
      | false => exact .refl t
  | timer generation hPast =>
      exact
        alike_take hKeep (Client.Unmoved.fireTimer t.now hPast)
  | alarm generation token hPast =>
      exact
        alike_take hKeep (Client.Unmoved.fireAlarm t.now hPast)
  | connect e hRefused =>
      simp only [run, act, ifHeld, hRefused]
      split <;> exact .refl t

------------------------------------------------------------
-- Runs with Late Entries
------------------------------------------------------------

/-
  The turn follows the moves, with further entries in between
  that are late when they come.  They may come while a duty
  stands first as well; on a free turn seeing to one of them
  is a move of its own and a step.
-/
inductive Padded : Turn → List Move → Turn → Prop
  | done (t : Turn) : Padded t [] t
  | move
      {t t' : Turn}
      (m : Move)
      {moves : List Move}
      (hRest : Padded (t.move m) moves t') :
      Padded t (m :: moves) t'
  | late
      {t t' : Turn}
      {task : Task}
      (hLate : t.IsLate task)
      {moves : List Move}
      (hRest : Padded (t.run task) moves t') :
      Padded t moves t'

/- Late entries leave no trace in what comes after them. -/
theorem Padded.alike
    (hKeep : ∀ r, r.isStale = true → keep r = false)
    {padded : Turn}
    {moves : List Move}
    (hPadded : t.Padded moves padded) :
    (t.follow moves).Alike keep padded := by
  induction hPadded with
  | done t => exact .refl t
  | move m _ ih => exact ih
  | @late t _ task hLate moves _ ih =>
      have hNow : t.Alike keep (t.run task) :=
        hLate.alike hKeep
      exact (hNow.follow moves).trans ih

end Turn

end EventFeed

------------------------------------------------------------
-- Resets of the Watch
------------------------------------------------------------

namespace EventFeed

/-
  An operation that resets the watch shows in a sign; any
  other leaves its token, and does not arm it.
-/
theorem Effect.watch_cases
    {now : Time}
    {begun : Array UInt64}
    {c : Client}
    {task : Task}
    {o : Outcome}
    (hEffect : Effect now begun c task o) :
    (o.client.link.keepalive.token = c.link.keepalive.token ∧
        (o.client.link.keepalive.isArmed = true →
          c.link.keepalive.isArmed = true)) ∨
      (o.client.link.keepalive.token =
          c.link.keepalive.token + 1 ∧
        1 ≤ o.signs.length) := by
  cases hEffect with
  | connect hPhase =>
      rw [Client.connect_of_accepted now hPhase]
      exact Or.inl ⟨rfl, nofun⟩
  | disconnect => exact Or.inl ⟨rfl, nofun⟩
  | opening attempt generation r next =>
      rw [Outcome.signs_opening]
      exact Or.inr ⟨rfl, Nat.le_add_left 1 _⟩
  | event attempt generation e =>
      rw [Outcome.signs_accept]
      exact Or.inr ⟨rfl, Nat.le_refl 1⟩
  | giveUp => exact Or.inl ⟨rfl, nofun⟩
  | retry => exact Or.inl ⟨rfl, nofun⟩
  | restart => exact Or.inl ⟨rfl, nofun⟩
  | nothing => exact Or.inl ⟨rfl, id⟩
  | error => exact Or.inl ⟨rfl, id⟩
  | detach => exact Or.inl ⟨rfl, id⟩
  | delivery => exact Or.inl ⟨rfl, id⟩
  | countPing => exact Or.inl ⟨rfl, id⟩

namespace Turn

/-
  Since an earlier point of the run the watch was reset the
  given number of times, and every time there was a sign.
-/
structure Rewound (t : Turn) (n : Nat) (t' : Turn) : Prop where
  token :
    t'.client.link.keepalive.token =
      t.client.link.keepalive.token + UInt64.ofNat n
  within : t.story.length + n ≤ t'.story.length
  armed :
    n = 0 → t'.client.link.keepalive.isArmed = true →
      t.client.link.keepalive.isArmed = true

variable {t t' : Turn}

theorem Rewound.acted
    {n : Nat}
    {t'' : Turn}
    {task : Task}
    {o : Outcome}
    (hRewound : t.Rewound n t')
    (hActed : t'.Acted task o t'') :
    ∃ m, t.Rewound m t'' := by
  have hWithin := hRewound.within
  have hStory : t''.story.length =
      t'.story.length + o.signs.length := by
    rw [hActed.story, List.length_append]
  rcases hActed.effect.watch_cases with
    ⟨hSame, hArmed⟩ | ⟨hNext, hSign⟩
  · refine ⟨n, ?_, by omega, ?_⟩
    · rw [hActed.client, hSame]
      exact hRewound.token
    · intro hNone hLater
      rw [hActed.client] at hLater
      exact hRewound.armed hNone (hArmed hLater)
  · refine ⟨n + 1, ?_, by omega, by simp⟩
    rw [hActed.client, hNext, hRewound.token, UInt64.ofNat_add,
      UInt64.add_assoc]
    rfl

theorem exists_rewound_follow
    (hOrderly : t.Orderly)
    (moves : List Move) :
    ∃ n, t.Rewound n (t.follow moves) := by
  refine
    history_induction (P := fun t' => ∃ n, t.Rewound n t')
      ?_ ?_ hOrderly ⟨0, by simp, by simp, fun _ => id⟩ moves
  · intro t' t'' hBefore hStill
    rcases hBefore with ⟨n, hRewound⟩
    refine ⟨n, ?_, ?_, ?_⟩
    · rw [hStill.link]
      exact hRewound.token
    · rw [hStill.story]
      exact hRewound.within
    · rw [hStill.link]
      exact hRewound.armed
  · intro t' t'' task o hBefore hActed
    rcases hBefore with ⟨n, hRewound⟩
    exact hRewound.acted hActed

end Turn

end EventFeed

------------------------------------------------------------
-- Out of Date for Good
------------------------------------------------------------

namespace EventFeed

namespace Turn

/-
  What was out of date at one point of a run is so at a later
  one: handles on attempts, generations that had been reached
  and, unless the tokens wrap, tokens that had been given out.
-/
structure Outlived (t t' : Turn) : Prop where
  handles :
    ∀ generation, t.IsIssued generation →
      t.isLive generation = false →
        t'.isLive generation = false
  timers :
    ∀ generation, generation ≤ t.client.link.generation →
      t.client.link.generation ≠ generation →
        t'.client.link.generation ≠ generation
  alarms :
    t'.story.length < UInt64.size →
      ∀ token, token ≤ t.client.link.keepalive.token →
        t.client.link.keepalive.isCurrent token = false →
          t'.client.link.keepalive.isCurrent token = false

variable {config : Config}
variable {t t' : Turn}

/- A client that has ended does not come back. -/
theorem alive_follow
    (hDead : t.alive = false)
    (moves : List Move) :
    (t.follow moves).alive = false := by
  refine
    follow_induction (P := fun t => t.alive = false)
      ?_ hDead moves
  intro t m hBefore
  cases m with
  | step =>
      rw [move, t.momentary_step.alive]
      exact hBefore
  | act a =>
      simp only [move, put]
      split <;> exact hBefore
  | begin =>
      simp only [move, beginAttempt]
      split
      · split <;> exact hBefore
      · exact hBefore
  | drop =>
      simp only [move]
      split
      · rfl
      · exact hBefore
  | wait span => exact hBefore
  | timer generation => simp [move, hBefore]
  | alarm generation token => simp [move, hBefore]

/- The generation of a run never falls. -/
theorem generation_le_follow
    (hOrderly : t.Orderly)
    (hGoverned : t.Governed config)
    (moves : List Move)
    (hTeardowns : (t.follow moves).teardowns < UInt64.size) :
    t.client.link.generation ≤
      (t.follow moves).client.link.generation := by
  have hLater := hGoverned.follow hOrderly moves
  have hLe : t.teardowns ≤ (t.follow moves).teardowns :=
    countP_milestones_le_follow hOrderly Remark.isTeardown moves
  rw [UInt64.le_iff_toNat_le,
    hGoverned.dated.toNat_eq (by omega) rfl,
    hLater.dated.toNat_eq hTeardowns rfl]
  exact hLe

/-
  A handle on an attempt is of a generation that has been
  reached, and if it is current the connection is active.
-/
theorem Governed.active_of_isIssued
    (hGoverned : t.Governed config)
    (hTeardowns : t.teardowns < UInt64.size)
    {generation : UInt64}
    (hIssued : t.IsIssued generation) :
    generation ≤ t.client.link.generation ∧
      (generation = t.client.link.generation →
        t.client.link.phase.isActive = true) := by
  have hDated := hGoverned.dated
  rcases hIssued with hBegun | hHeld
  · have hDate := hDated.begun _ hBegun
    constructor
    · rw [UInt64.le_iff_toNat_le,
        hDated.toNat_eq hTeardowns rfl]
      exact hDate.1
    · intro hCurrent
      exact hDate.2 (hDated.toNat_eq hTeardowns hCurrent)
  · have hActive : t.client.link.phase.isActive = true := by
      apply hGoverned.sound.transport.mp
      rw [hHeld]
      rfl
    have hSame := hGoverned.sound.transportDate _ hHeld
    exact ⟨hSame ▸ UInt64.le_refl _, fun _ => hActive⟩

/- A handle of the current generation is live. -/
theorem Governed.isLive_link
    (hGoverned : t.Governed config)
    (hPhase : t.client.link.phase.isActive = true) :
    t.client.link.isLive t.client.link.generation = true := by
  have hManual : t.client.link.manual = false := by
    apply hGoverned.sound.manual_eq_false
    intro hClosed
    rw [hClosed] at hPhase
    contradiction
  simp [Link.isLive, hManual]

/- A handle that is not live is never live again. -/
theorem isLive_follow
    (hOrderly : t.Orderly)
    (hGoverned : t.Governed config)
    (moves : List Move)
    (hTeardowns : (t.follow moves).teardowns < UInt64.size)
    {generation : UInt64}
    (hIssued : t.IsIssued generation)
    (hRetired : t.isLive generation = false) :
    (t.follow moves).isLive generation = false := by
  cases hAlive : t.alive with
  | false => rw [isLive, alive_follow hAlive, Bool.false_and]
  | true =>
      rw [isLive, hAlive, Bool.true_and] at hRetired
      have hLe : t.teardowns ≤ (t.follow moves).teardowns :=
        countP_milestones_le_follow hOrderly Remark.isTeardown
          moves
      have hDate :=
        hGoverned.active_of_isIssued (by omega) hIssued
      have hSince :=
        generation_le_follow hOrderly hGoverned moves hTeardowns
      rw [Bool.eq_false_iff]
      intro hLive
      rw [isLive, Bool.and_eq_true] at hLive
      have hCurrent := (Effect.manual_of_isLive hLive.2).1
      -- no generation lies between the two points
      have hSame : generation = t.client.link.generation := by
        apply UInt64.le_antisymm hDate.1
        rw [← hCurrent]
        exact hSince
      have hNow := hGoverned.isLive_link (hDate.2 hSame)
      rw [← hSame, hRetired] at hNow
      contradiction

/- Tokens count signs at most. -/
theorem toNat_token_le
    (config : Config)
    (moves : List Move)
    (hReached : t = (fresh config).follow moves) :
    t.client.link.keepalive.token.toNat ≤ t.story.length := by
  rcases
    exists_rewound_follow (orderly_fresh config) moves with
    ⟨n, hRewound⟩
  rw [← hReached] at hRewound
  have hToken :
      t.client.link.keepalive.token = UInt64.ofNat n := by
    rw [hRewound.token]
    exact UInt64.zero_add _
  have hWithin := hRewound.within
  rw [hToken, UInt64.toNat_ofNat']
  exact Nat.le_trans (Nat.mod_le _ _) (by omega)

/- A token that is no longer current is not given out again. -/
theorem Rewound.isCurrent_eq_false
    {n : Nat}
    (hRewound : t.Rewound n t')
    (hCounted :
      t.client.link.keepalive.token.toNat ≤ t.story.length)
    (hStory : t'.story.length < UInt64.size)
    {token : UInt64}
    (hGiven : token ≤ t.client.link.keepalive.token)
    (hPast : t.client.link.keepalive.isCurrent token = false) :
    t'.client.link.keepalive.isCurrent token = false := by
  have hWithin := hRewound.within
  have hToken :
      t'.client.link.keepalive.token.toNat =
        t.client.link.keepalive.token.toNat + n := by
    have hFits :
        t.client.link.keepalive.token.toNat + n <
          UInt64.size := by
      omega
    rw [hRewound.token, UInt64.toNat_add, UInt64.toNat_ofNat',
      Nat.add_mod_mod]
    exact Nat.mod_eq_of_lt hFits
  rw [UInt64.le_iff_toNat_le] at hGiven
  rw [Bool.eq_false_iff]
  intro hCurrent
  simp only [Keepalive.isCurrent, Bool.and_eq_true,
    beq_iff_eq] at hCurrent
  rcases hCurrent with ⟨hArmed, hEq⟩
  -- it is the latest token of both points
  have hNone : n = 0 := by
    rw [hEq] at hGiven
    omega
  have hSame : token = t.client.link.keepalive.token := by
    rw [hEq, hRewound.token, hNone]
    exact UInt64.add_zero _
  have hBefore := hRewound.armed hNone hArmed
  simp [Keepalive.isCurrent, hBefore, hSame] at hPast

/-
  What is out of date remains so, as long as the generations
  do not wrap.
-/
theorem outlived_follow
    (config : Config)
    (before after : List Move)
    (hFirst : t = (fresh config).follow before)
    (hSecond : t' = t.follow after)
    (hTeardowns : t'.teardowns < UInt64.size) :
    t.Outlived t' := by
  rcases governed_of_reached hFirst with ⟨hOrderly, hGoverned⟩
  rw [hSecond] at hTeardowns
  rcases exists_rewound_follow hOrderly after with ⟨n, hRewound⟩
  rw [hSecond]
  constructor
  · intro generation hIssued hRetired
    exact
      isLive_follow hOrderly hGoverned after hTeardowns hIssued
        hRetired
  · intro generation hReached hPast hCurrent
    have hSince :=
      generation_le_follow hOrderly hGoverned after hTeardowns
    rw [hCurrent] at hSince
    exact hPast (UInt64.le_antisymm hSince hReached)
  · intro hStory token hGiven hPast
    exact
      hRewound.isCurrent_eq_false
        (toNat_token_le config before hFirst) hStory hGiven
        hPast

/-
  What is out of date remains so; and a run into which any
  number of late entries come, at any of its points, goes on
  as it does without them, debugging remarks aside.
-/
theorem unobserved_follow
    (config : Config)
    (before after : List Move)
    {t t' : Turn}
    (hFirst : t = (fresh config).follow before)
    (hSecond : t' = t.follow after)
    (hTeardowns : t'.teardowns < UInt64.size) :
    t.Outlived t' ∧
      ∀ padded, t.Padded after padded →
        t'.Alike Remark.isLoud padded := by
  constructor
  · exact
      outlived_follow config before after hFirst hSecond
        hTeardowns
  · intro padded hPadded
    rw [hSecond]
    exact
      hPadded.alike fun _ hStale =>
        Remark.isLoud_of_isStale hStale

/-
  The second attempt of a client has begun.  The first one
  ends again, the timer between them goes off again, and a
  connect is refused before the second attempt opens; then
  the watch of the first attempt goes off.
-/
theorem unobserved_follow_after_reconnect :
    ∃ t t' padded : Turn,
      t.begun = #[1, 3] ∧
        t.isLive 1 = false ∧
        t'.client.link.phase = .opened ∧
        padded =
          t.follow
            [.act (.report 0 .closed), .step, .timer 2, .step,
              .act .connect, .step, .act (.report 1 .opened),
              .step, .step, .alarm 1 1, .step] ∧
        t.Outlived t' ∧
        t'.Alike Remark.isLoud padded := by
  have hBoth :=
    unobserved_follow
      { (default : Config) with autoReconnect := true }
      [.act .connect, .step, .begin, .act (.report 0 .opened),
        .step, .step, .act (.report 0 .closed), .step, .step,
        .timer 2, .step, .step, .begin]
      [.act (.report 1 .opened), .step, .step]
      rfl rfl (by decide)
  refine
    ⟨_, _, _, by decide, by decide, by decide, rfl, hBoth.1,
      hBoth.2 _ ?_⟩
  refine .late (.report 0 1 .closed rfl rfl) ?_
  refine .late (.timer 2 (by decide)) ?_
  refine .late (.connect _ rfl) ?_
  refine .move _ (.move _ (.move _ ?_))
  refine .late (.alarm 1 1 (Or.inr (by decide))) ?_
  exact .done _

end Turn

end EventFeed
