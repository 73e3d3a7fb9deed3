import EventFeed.Proofs.Client.History

/-
  This file proves that a disconnect lasts.

  A disconnect leaves nothing behind that could bring the
  connection back: no attempt, no timer and no watch; and it
  marks the link, so whatever was under way finds itself out
  of date.  Until a connect is accepted, all that can still
  come of it are the close calls of further disconnects.

  Key definitions include:
    * `Link.Quiet`
    * `Turn.Silenced`

  Key results include:
    * `Effect.quiet`
    * `Turn.silenced_follow`
    * `Turn.silenced_after_disconnect`
-/

------------------------------------------------------------
-- Quiet Links
------------------------------------------------------------

namespace EventFeed

/-
  The connection was closed by hand, and nothing is left that
  could bring it back.
-/
structure Link.Quiet (l : Link) : Prop where
  phase : l.phase = .closed
  published : l.published = .closed
  manual : l.manual = true
  transport : l.transport = none
  timer : l.timer = none
  watch : l.keepalive.isArmed = false

namespace Link.Quiet

variable {l : Link}

theorem shut (l : Link) : l.shut.1.Quiet :=
  ⟨rfl, rfl, rfl, rfl, rfl, rfl⟩

/- Every handle on an attempt is out of date. -/
theorem not_isLive
    (hQuiet : l.Quiet)
    (generation : UInt64) :
    l.isLive generation ≠ true := by
  simp [isLive, hQuiet.manual]

end Link.Quiet

/-
  A quiet client remains so until a connect is accepted, and
  makes no call but the close call of a disconnect.
-/
theorem Effect.quiet
    {now : Time}
    {begun : Array UInt64}
    {c : Client}
    {task : Task}
    {o : Outcome}
    (hEffect : Effect now begun c task o)
    (hQuiet : c.link.Quiet)
    (hConnect : o.milestones.countP Remark.isConnect = 0) :
    o.client.link.Quiet ∧
      o.milestones.countP Remark.isStart = 0 ∧
      o.signs =
        List.replicate
          (o.milestones.countP Remark.isDisconnect)
          (.call .closed) := by
  cases hEffect with
  | nothing _ remarks hStale =>
      have hSilent := Remark.silent_of_isStale hStale
      refine ⟨hQuiet, ?_, ?_⟩
      · rw [Outcome.milestones, hSilent.1]
        rfl
      · rw [Outcome.signs, Outcome.milestones, hSilent.1,
          hSilent.2]
        rfl
  | connect hPhase =>
      rw [Outcome.milestones_connect now hPhase] at hConnect
      contradiction
  | disconnect =>
      rw [Outcome.milestones_disconnect,
        Outcome.signs_disconnect]
      exact ⟨Link.Quiet.shut c.link, rfl, rfl⟩
  | countPing => exact ⟨hQuiet, rfl, rfl⟩
  -- whatever comes from an attempt is out of date
  | opening _ generation _ _ _ hLive =>
      exact absurd hLive (hQuiet.not_isLive generation)
  | event _ generation _ _ hLive =>
      exact absurd hLive (hQuiet.not_isLive generation)
  | error _ generation _ _ hLive =>
      exact absurd hLive (hQuiet.not_isLive generation)
  | detach _ generation _ hLive =>
      exact absurd hLive (hQuiet.not_isLive generation)
  | delivery generation _ hLive =>
      exact absurd hLive (hQuiet.not_isLive generation)
  -- and nothing is recovered from
  | giveUp _ _ _ _ hManual =>
      rw [hQuiet.manual] at hManual
      contradiction
  | retry _ _ _ hManual =>
      rw [hQuiet.manual] at hManual
      contradiction
  | restart _ hManual =>
      rw [hQuiet.manual] at hManual
      contradiction

end EventFeed

------------------------------------------------------------
-- Silence until a Connect
------------------------------------------------------------

namespace EventFeed

namespace Turn

/-
  The connection is quiet; and since an earlier point of the
  run no connect was accepted, no attempt was started or
  began, and the only calls are the close calls of the
  disconnects that came since.
-/
structure Silenced (t t' : Turn) : Prop where
  link : t'.client.link.Quiet
  connects : t'.connects = t.connects
  starts : t'.starts = t.starts
  begun : t'.begun = t.begun
  since : t.disconnects ≤ t'.disconnects
  story :
    t'.story =
      t.story ++
        List.replicate (t'.disconnects - t.disconnects)
          (.call .closed)

namespace Silenced

variable {t t' t'' : Turn}

theorem refl
    (hQuiet : t.client.link.Quiet) :
    t.Silenced t where
  link := hQuiet
  connects := rfl
  starts := rfl
  begun := rfl
  since := Nat.le_refl _
  story := by simp

/- No attempt can begin when no task is held. -/
theorem still
    (hSilenced : t.Silenced t')
    (hStill : t'.Still t'') :
    t.Silenced t'' where
  link := by
    rw [hStill.link]
    exact hSilenced.link
  connects :=
    (hStill.countP_milestones Remark.isConnect).trans
      hSilenced.connects
  starts :=
    (hStill.countP_milestones Remark.isStart).trans
      hSilenced.starts
  begun := by
    rcases hStill.begun with hSame | ⟨generation, hHeld, _⟩
    · rw [hSame]
      exact hSilenced.begun
    · rw [hSilenced.link.transport] at hHeld
      contradiction
  since :=
    Nat.le_trans hSilenced.since
      (Nat.le_of_eq
        (hStill.countP_milestones Remark.isDisconnect).symm)
  story := by
    rw [hStill.story, Turn.disconnects, hStill.milestones]
    exact hSilenced.story

/- Every operation but a connect keeps the silence. -/
theorem acted
    {task : Task}
    {o : Outcome}
    (hSilenced : t.Silenced t')
    (hActed : t'.Acted task o t'')
    (hConnect : o.milestones.countP Remark.isConnect = 0) :
    t.Silenced t'' := by
  rcases hActed.effect.quiet hSilenced.link hConnect with
    ⟨hQuiet, hStart, hSigns⟩
  have hConnects :
      t''.connects =
        o.milestones.countP Remark.isConnect + t'.connects :=
    hActed.countP_milestones Remark.isConnect
  have hStarts :
      t''.starts =
        o.milestones.countP Remark.isStart + t'.starts :=
    hActed.countP_milestones Remark.isStart
  have hDisconnects :
      t''.disconnects =
        o.milestones.countP Remark.isDisconnect +
          t'.disconnects :=
    hActed.countP_milestones Remark.isDisconnect
  have hSince := hSilenced.since
  refine ⟨?_, ?_, ?_, ?_, ?_, ?_⟩
  · rw [hActed.client]
    exact hQuiet
  · rw [hConnects, hConnect, Nat.zero_add]
    exact hSilenced.connects
  · rw [hStarts, hStart, Nat.zero_add]
    exact hSilenced.starts
  · rw [hActed.begun]
    exact hSilenced.begun
  · omega
  · rw [hActed.story, hSilenced.story, hSigns,
      List.append_assoc, List.replicate_append_replicate,
      hDisconnects]
    congr 2
    omega

end Silenced

variable {t : Turn}

/- Connects that were accepted stay counted. -/
theorem connects_le_follow
    (hOrderly : t.Orderly)
    (moves : List Move) :
    t.connects ≤ (t.follow moves).connects :=
  countP_milestones_le_follow hOrderly Remark.isConnect moves

/-
  From a quiet point on the silence lasts for as long as no
  connect is accepted.
-/
theorem silenced_follow
    (hOrderly : t.Orderly)
    (hQuiet : t.client.link.Quiet)
    (moves : List Move)
    (hConnects :
      (t.follow moves).connects ≤ t.connects) :
    t.Silenced (t.follow moves) := by
  refine
    history_induction
      (P := fun t' =>
        t'.connects ≤ t.connects → t.Silenced t')
      ?_ ?_ hOrderly (fun _ => .refl hQuiet) moves hConnects
  · intro t' t'' hBefore hStill hLe
    rw [Turn.connects, hStill.milestones] at hLe
    exact (hBefore hLe).still hStill
  · intro t' t'' task o hBefore hActed hLe
    have hCount :
        t''.connects =
          o.milestones.countP Remark.isConnect + t'.connects :=
      hActed.countP_milestones Remark.isConnect
    have hSilenced : t.Silenced t' := hBefore (by omega)
    have hSame := hSilenced.connects
    exact hSilenced.acted hActed (by omega)

end Turn

end EventFeed

------------------------------------------------------------
-- Disconnects
------------------------------------------------------------

namespace EventFeed

namespace Turn

variable {t : Turn}
variable {rest : List Task}

/- A disconnect takes effect at once. -/
theorem step_disconnect
    (hAgenda : t.agenda = .act .disconnect :: rest)
    (hHeld : t.held = true) :
    t.step.client.link.Quiet ∧ t.step.connects = t.connects := by
  have hStep :
      t.step =
        ({ t with agenda := rest }.take
          t.client.disconnect).reply .done := by
    simp [step, hAgenda, run, act, ifHeld, hHeld]
  rw [hStep]
  refine ⟨Link.Quiet.shut t.client.link, ?_⟩
  show
    List.countP Remark.isConnect
        (List.filterMap Observation.milestone?
          ((t.client.disconnect.remarks.map
              Observation.remark).reverse ++ t.seen)) =
      t.connects
  rw [List.filterMap_append, milestones_take,
    Outcome.milestones_disconnect]
  rfl

/-
  A disconnect that was called at any point of a run, by the
  program or by a handler at any depth, lasts until the next
  connect is accepted.  From any point after it took effect,
  such as its return, to any later one before such a connect,
  the client is silenced, whatever the moves in between.
-/
theorem silenced_after_disconnect
    (config : Config)
    (before between after : List Move)
    {t₀ t₁ t₂ : Turn}
    (hReached : t₀ = (fresh config).follow before)
    (hAgenda : t₀.agenda = .act .disconnect :: rest)
    (hHeld : t₀.held = true)
    (hFirst : t₁ = t₀.step.follow between)
    (hSecond : t₂ = t₁.follow after)
    (hConnects : t₂.connects = t₀.connects) :
    t₁.Silenced t₂ := by
  have hOrderly : t₀.step.Orderly := by
    rw [hReached]
    exact
      orderly_move
        (orderly_follow (orderly_fresh config) before) .step
  rcases step_disconnect hAgenda hHeld with ⟨hQuiet, hSame⟩
  have hOrderly₁ : t₁.Orderly := by
    rw [hFirst]
    exact orderly_follow hOrderly between
  have hLe : t₁.connects ≤ t₂.connects := by
    rw [hSecond]
    exact connects_le_follow hOrderly₁ after
  have hSilenced : t₀.step.Silenced t₁ := by
    rw [hFirst]
    apply silenced_follow hOrderly hQuiet
    rw [← hFirst]
    omega
  have hSame₁ := hSilenced.connects
  rw [hSecond]
  apply silenced_follow hOrderly₁ hSilenced.link
  rw [← hSecond]
  omega

/-
  The handler of an implicit opening disconnects; the event is
  not delivered any more, and nothing late counts.
-/
theorem silenced_after_disconnect_in_opening :
    ∃ t₁ t₂ : Turn,
      t₁.story =
          [.connect, .call .opened, .call .closed] ∧
        t₂.disconnects = t₁.disconnects + 1 ∧
        t₁.Silenced t₂ := by
  refine ⟨_, _, ?_, ?_,
    silenced_after_disconnect default
      [.act (.register .opened [[.disconnect]]), .step,
        .act .connect, .step, .begin,
        .act (.report 0 (.event default)), .step, .step]
      [.step]
      [.step, .step, .step, .act (.report 0 .closed), .step,
        .timer 1, .step, .alarm 1 1, .step, .wait 5000,
        .act .disconnect, .step, .step]
      rfl rfl rfl rfl rfl (by decide)⟩
  · rfl
  · rfl

end Turn

end EventFeed
