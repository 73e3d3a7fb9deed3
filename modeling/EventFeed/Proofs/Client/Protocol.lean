import EventFeed.Proofs.Client.Supervision

/-
  This file proves which stories a client can tell.

  The automaton of stages reads accepted connects and calls.
  It knows nothing of generations or timers; that every story
  is read by it says that no signal which came too late ever
  led to a call.

  Key definitions include:
    * `Stage`
    * `Stage.next`
    * `Stage.read`
    * `Link.stage`

  Key results include:
    * `Stage.read_opened_twice`
    * `Stage.read_reconnected`
    * `Effect.stage_eq`
    * `Turn.read_story`
    * `Turn.protocol_follow`
-/

------------------------------------------------------------
-- Stages
------------------------------------------------------------

namespace EventFeed

/-
  Where a client stands, as far as its signs tell.  During a
  wait it is known which reconnect is waited for.
-/
inductive Stage
  | idle
  | connecting
  | opened
  | reconnecting (attempt : UInt32)
  | closed
deriving DecidableEq, Inhabited, Repr

namespace Stage

/- The phase of a stage. -/
def phase : Stage → Phase
  | idle => .idle
  | connecting => .connecting
  | opened => .opened
  | reconnecting _ => .reconnecting
  | closed => .closed

/- Where a sign leads, if it may come at all. -/
def next : Stage → Sign → Option Stage
  | _, .call .closed => some closed
  | idle, .connect => some connecting
  | closed, .connect => some connecting
  | connecting, .call .opened => some opened
  | connecting, .call (.error _) => some connecting
  | opened, .call (.error _) => some opened
  | opened, .call (.message _ _) => some opened
  | opened, .call (.ping _) => some opened
  | connecting, .call (.reconnecting k) => some (reconnecting k)
  | opened, .call (.reconnecting k) => some (reconnecting k)
  | reconnecting k, .call (.reconnected n) =>
      if n = k then some connecting else none
  | _, _ => none

/- Where a story leads, if each of its signs may come. -/
def read : Stage → List Sign → Option Stage
  | s, [] => some s
  | s, sign :: rest =>
      match s.next sign with
      | some s' => s'.read rest
      | none => none

/- A story is read sign by sign. -/
theorem read_cons
    {s s' : Stage}
    {sign : Sign}
    {rest : List Sign}
    (hRead : s.read (sign :: rest) = some s') :
    ∃ mid, s.next sign = some mid ∧ mid.read rest = some s' := by
  simp only [read] at hRead
  split at hRead
  · next mid hNext => exact ⟨mid, hNext, hRead⟩
  · contradiction

theorem read_append
    {s mid : Stage}
    {a : List Sign}
    (b : List Sign)
    (hRead : s.read a = some mid) :
    s.read (a ++ b) = mid.read b := by
  induction a generalizing s with
  | nil =>
      cases hRead
      rfl
  | cons sign rest ih =>
      rcases read_cons hRead with ⟨s₁, hNext, hRest⟩
      simp only [List.cons_append, read, hNext]
      exact ih hRest

/- The beginning of a story that can be read can be read. -/
theorem read_of_append
    {s s' : Stage}
    {a b : List Sign}
    (hRead : s.read (a ++ b) = some s') :
    ∃ mid, s.read a = some mid ∧ mid.read b = some s' := by
  induction a generalizing s with
  | nil => exact ⟨s, rfl, hRead⟩
  | cons sign rest ih =>
      rcases read_cons hRead with ⟨s₁, hNext, hRest⟩
      simp only [read, hNext]
      exact ih hRest

end Stage

end EventFeed

------------------------------------------------------------
-- Readable Stories
------------------------------------------------------------

namespace EventFeed

namespace Stage

variable {s s' : Stage}
variable {sign : Sign}
variable {k : UInt32}

/- Whether an attempt is started with the sign. -/
def startsAttempt : Sign → Bool
  | .connect => true
  | .call (.reconnected _) => true
  | _ => false

theorem next_opened
    (hNext : s.next (.call .opened) = some s') :
    s = connecting ∧ s' = opened := by
  cases s <;> simp_all [next]

theorem next_reconnected
    (hNext : s.next (.call (.reconnected k)) = some s') :
    s = reconnecting k := by
  cases s <;> simp_all [next]

/- Only its announcement leads to a wait. -/
theorem next_eq_reconnecting
    (hNext : s.next sign = some (reconnecting k)) :
    sign = .call (.reconnecting k) := by
  unfold next at hNext
  split at hNext <;> simp_all

/- Only the start of an attempt leads to connecting. -/
theorem next_eq_connecting
    (hNext : s.next sign = some connecting) :
    s = connecting ∨ startsAttempt sign = true := by
  unfold next at hNext
  split at hNext <;> simp_all [startsAttempt]

theorem exists_startsAttempt
    {story : List Sign}
    (hStart : s ≠ connecting)
    (hRead : s.read story = some connecting) :
    ∃ sign ∈ story, startsAttempt sign = true := by
  induction story generalizing s with
  | nil =>
      cases hRead
      contradiction
  | cons sign rest ih =>
      rcases read_cons hRead with ⟨mid, hNext, hRest⟩
      by_cases hMid : mid = connecting
      · subst hMid
        have hSign :=
          (next_eq_connecting hNext).resolve_left hStart
        exact ⟨sign, List.mem_cons_self, hSign⟩
      · rcases ih hMid hRest with ⟨other, hMember, hOther⟩
        exact ⟨other, List.mem_cons_of_mem _ hMember, hOther⟩

/- There is at most one opening for each attempt. -/
theorem read_opened_twice
    {before between after : List Sign}
    (hRead :
      s.read
          (before ++
            .call .opened ::
              (between ++ .call .opened :: after)) =
        some s') :
    ∃ sign ∈ between, startsAttempt sign = true := by
  rcases read_of_append hRead with ⟨s₁, _, hFirst⟩
  rcases read_cons hFirst with ⟨s₂, hOpened, hLater⟩
  rcases read_of_append hLater with ⟨s₃, hBetween, hSecond⟩
  rcases read_cons hSecond with ⟨_, hAgain, _⟩
  rw [(next_opened hAgain).1] at hBetween
  refine exists_startsAttempt ?_ hBetween
  rw [(next_opened hOpened).2]
  simp

/-
  A reconnect that comes about answers its own announcement,
  with nothing in between.
-/
theorem read_reconnected
    {before after : List Sign}
    (hRead :
      idle.read (before ++ .call (.reconnected k) :: after) =
        some s') :
    ∃ earlier,
      before = earlier ++ [.call (.reconnecting k)] := by
  rcases read_of_append hRead with ⟨s₁, hBefore, hAfter⟩
  rcases read_cons hAfter with ⟨_, hNext, _⟩
  rw [next_reconnected hNext] at hBefore
  rcases List.eq_nil_or_concat before with
    rfl | ⟨earlier, last, hLast⟩
  · cases hBefore
  · rw [hLast, List.concat_eq_append] at hBefore ⊢
    rcases read_of_append hBefore with ⟨s₂, _, hRest⟩
    rcases read_cons hRest with ⟨s₃, hStep, hEnd⟩
    cases hEnd
    rw [next_eq_reconnecting hStep]
    exact ⟨earlier, rfl⟩

end Stage

end EventFeed

------------------------------------------------------------
-- Stages of Links
------------------------------------------------------------

namespace EventFeed

/- The stage that a link is in. -/
def Link.stage (l : Link) : Stage :=
  match l.phase with
  | .idle => .idle
  | .connecting => .connecting
  | .opened => .opened
  | .reconnecting => .reconnecting l.attempts
  | .closed => .closed

namespace Link

variable {l : Link}

theorem phase_stage (l : Link) : l.stage.phase = l.phase := by
  unfold stage
  cases l.phase <;> rfl

theorem stage_of_opened
    (hPhase : l.phase = .opened) :
    l.stage = .opened := by
  unfold stage
  rw [hPhase]

theorem stage_of_isActive
    (hPhase : l.phase.isActive = true) :
    l.stage = .connecting ∨ l.stage = .opened := by
  unfold stage
  cases h : l.phase <;> simp_all [Phase.isActive]

/- A connect is accepted before and after a connection. -/
theorem acceptsConnect_iff (l : Link) :
    l.phase.acceptsConnect = true ↔
      l.stage = .idle ∨ l.stage = .closed := by
  unfold stage
  cases l.phase <;> simp [Phase.acceptsConnect]

end Link

/- An open connection delivers events. -/
theorem Stage.read_callback (e : Event) :
    Stage.opened.read [.call e.callback] = some .opened := by
  unfold Event.callback
  split <;> rfl

/-
  What an operation shows leads from the stage of the link to
  its new one.  Of an error the attempt must be active, and of
  an event that waited for delivery the connection open.
-/
theorem Effect.stage_eq
    {now : Time}
    {begun : Array UInt64}
    {c : Client}
    {task : Task}
    {o : Outcome}
    (hEffect : Effect now begun c task o)
    (hActive :
      ∀ generation ∈ begun,
        c.link.isLive generation = true →
          c.link.phase.isActive = true)
    (hOpened :
      ∀ generation e, task = .owe (.deliver generation e) →
        c.link.isLive generation = true →
          c.link.phase = .opened) :
    c.link.stage.read o.signs = some o.client.link.stage := by
  cases hEffect with
  | nothing _ remarks hStale =>
      rw [Outcome.signs, (Remark.silent_of_isStale hStale).2]
      rfl
  | connect hPhase =>
      rw [Outcome.signs_connect now hPhase,
        Client.connect_of_accepted now hPhase]
      rcases c.link.acceptsConnect_iff.mp hPhase with
        hStage | hStage <;>
        rw [hStage] <;> rfl
  | disconnect =>
      rw [Outcome.signs_disconnect]
      cases c.link.stage <;> rfl
  | opening attempt generation r next hBegun hLive hPhase hNext =>
      have hStage : c.link.stage = .connecting := by
        simp [Link.stage, hPhase]
      rw [Outcome.signs_opening, hStage]
      rcases hNext with rfl | ⟨e, rfl⟩ <;> rfl
  | event attempt generation e hBegun hLive hPhase =>
      rw [Outcome.signs_accept, Link.stage_of_opened hPhase,
        Stage.read_callback]
      exact congrArg some (Link.stage_of_opened hPhase).symm
  | error attempt generation e hBegun hLive =>
      have hBegun' := Array.mem_of_getElem? hBegun
      show c.link.stage.read [.call (.error e)] =
        some c.link.stage
      rcases Link.stage_of_isActive
          (hActive generation hBegun' hLive) with
        hStage | hStage <;>
        rw [hStage] <;> rfl
  | detach => rfl
  | giveUp _ before why hBefore hManual hPhase hWhy =>
      rw [Outcome.signs_giveUp hBefore hWhy]
      cases c.link.stage <;> rfl
  | retry _ before hBefore hManual hPhase =>
      rw [Outcome.signs_retry now hBefore]
      rcases Link.stage_of_isActive hPhase with
        hStage | hStage <;>
        rw [hStage] <;> rfl
  | restart generation hManual hPhase hCurrent =>
      have hStage :
          c.link.stage = .reconnecting c.link.attempts := by
        simp [Link.stage, hPhase]
      rw [Outcome.signs_restart, hStage]
      simp only [Stage.read, Stage.next, if_true]
      rfl
  | delivery generation e hLive =>
      have hPhase := hOpened generation e rfl hLive
      rw [Outcome.signs_accept, Link.stage_of_opened hPhase,
        Stage.read_callback]
      exact congrArg some (Link.stage_of_opened hPhase).symm
  | countPing => rfl

end EventFeed

------------------------------------------------------------
-- Stories of Runs
------------------------------------------------------------

namespace EventFeed

namespace Turn

variable {config : Config}
variable {t t' : Turn}

/- A handle that is live is of the current generation. -/
theorem Dated.toNat_of_isLive
    (hDated : t.Dated)
    (hTeardowns : t.teardowns < UInt64.size)
    {generation : UInt64}
    (hLive : t.client.link.isLive generation = true) :
    generation.toNat = t.teardowns :=
  hDated.toNat_eq hTeardowns
    (Effect.manual_of_isLive hLive).1.symm

/- The story so far leads to the stage of the link. -/
def IsRead (t : Turn) : Prop :=
  Stage.idle.read t.story = some t.client.link.stage

/- An operation carries the story on. -/
theorem IsRead.acted
    {task : Task}
    {o : Outcome}
    (hRead : t.IsRead)
    (hDated : t.Dated)
    (hTeardowns : t.teardowns < UInt64.size)
    (hActed : t.Acted task o t') :
    t'.IsRead := by
  have hStage :
      t.client.link.stage.read o.signs =
        some o.client.link.stage := by
    apply hActed.effect.stage_eq
    · intro generation hBegun hLive
      exact
        (hDated.begun generation hBegun).2
          (hDated.toNat_of_isLive hTeardowns hLive)
    · intro generation e hTask hLive
      have hMember := hActed.member
      rw [hTask] at hMember
      exact
        (hDated.delivery generation e hMember).2
          (hDated.toNat_of_isLive hTeardowns hLive)
  unfold IsRead
  rw [hActed.story, hActed.client,
    Stage.read_append o.signs hRead]
  exact hStage

/- Every story of a run is read by the automaton. -/
theorem isRead_follow
    (config : Config)
    (moves : List Move)
    (hTeardowns :
      ((fresh config).follow moves).teardowns < UInt64.size) :
    ((fresh config).follow moves).IsRead := by
  have hBoth :=
    history_induction
      (P := fun t =>
        t.Governed config ∧ (t.teardowns < UInt64.size → t.IsRead))
      ?_ ?_ (orderly_fresh config)
      ⟨governed_fresh config, fun _ => rfl⟩ moves
  · exact hBoth.2 hTeardowns
  · intro t t' hBefore hStill
    refine ⟨hBefore.1.still hStill, ?_⟩
    rw [hStill.teardowns_eq]
    intro hFew
    unfold IsRead
    rw [hStill.story, hStill.link]
    exact hBefore.2 hFew
  · intro t t' task o hBefore hActed
    refine ⟨hBefore.1.acted hActed, ?_⟩
    intro hFew
    have hCount :
        t'.teardowns =
          o.milestones.countP Remark.isTeardown + t.teardowns :=
      hActed.countP_milestones Remark.isTeardown
    have hOld : t.teardowns < UInt64.size := by omega
    exact (hBefore.2 hOld).acted hBefore.1.dated hOld hActed

/-
  At every point of every run the signs so far, with the call
  that is about to be made if there is one, are read by the
  automaton of stages; where it stands is the phase that is
  published, and tells whether a connect is accepted.
-/
theorem protocol_follow
    (config : Config)
    (moves : List Move)
    {t : Turn}
    (hReached : t = (fresh config).follow moves)
    (hTeardowns : t.teardowns < UInt64.size) :
    ∃ stage,
      Stage.idle.read (t.signs ++ t.owedSigns) = some stage ∧
        t.client.link.published = stage.phase ∧
        (t.client.connectRefusal? = none ↔
          stage = .idle ∨ stage = .closed) := by
  subst hReached
  have hSound := (governed_follow config moves).sound
  refine
    ⟨_, isRead_follow config moves hTeardowns, ?_, ?_⟩
  · rw [hSound.published]
    exact (Link.phase_stage _).symm
  · rw [← Link.acceptsConnect_iff]
    unfold Client.connectRefusal?
    split <;> simp_all

/-
  A lost connection comes back, and the handler of that news
  disconnects; what the first attempt still reports is late.
-/
theorem protocol_follow_across_reconnect :
    ∃ (t : Turn) (stage : Stage),
      t.signs =
          [.connect, .call .opened, .call (.reconnecting 1),
            .call (.reconnected 1), .call .closed] ∧
        Stage.idle.read (t.signs ++ t.owedSigns) =
          some stage ∧
        t.client.link.published = stage.phase ∧
        (t.client.connectRefusal? = none ↔
          stage = .idle ∨ stage = .closed) := by
  have hProtocol :=
    protocol_follow
      { (default : Config) with autoReconnect := true }
      [.act (.register .reconnected [[.disconnect]]), .step,
        .act .connect, .step, .begin,
        .act (.report 0 .opened), .step, .step,
        .act (.report 0 .closed), .step, .step,
        .wait 3000, .timer 2, .step, .step, .step, .step,
        .act (.report 0 .opened), .step]
      rfl (by decide)
  rcases hProtocol with ⟨stage, hRead⟩
  exact ⟨_, stage, rfl, hRead⟩

end Turn

end EventFeed
