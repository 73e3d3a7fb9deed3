import EventFeed.Proofs.Client.Failure

/-
  This file proves what the budget of reconnects allows.

  The counter of a client is read off its story: it counts
  the notices of a reconnect since the last connect or
  opening, and these are numbered from one.  A failure is
  the last one just when the counter has reached the ceiling;
  so it takes one failure more than the ceiling to close a
  client that never opens.

  Key definitions include:
    * `Sign.notices`
    * `Turn.notices`
    * `Turn.breaks`
    * `Turn.Tried`
    * `Turn.Rationed`

  Key results include:
    * `Effect.notices_eq`
    * `Turn.numbered_follow`
    * `Turn.tried_follow`
    * `Turn.rationed_follow`
-/

------------------------------------------------------------
-- Notices of a Story
------------------------------------------------------------

namespace EventFeed

namespace Sign

/- Whether a fresh budget starts with the sign. -/
def startsBudget : Sign → Bool
  | connect => true
  | call .opened => true
  | _ => false

/- The number that a notice of a reconnect carries. -/
def attempt? : Sign → Option UInt32
  | call (.reconnecting attempt) => some attempt
  | _ => none

/-
  The numbers of the notices that a story ends with, in their
  order: those since the last connect or opening.
-/
def notices (story : List Sign) : List UInt32 :=
  (story.reverse.takeWhile fun sign =>
    !sign.startsBudget).reverse.filterMap attempt?

theorem notices_concat (story : List Sign) (sign : Sign) :
    notices (story ++ [sign]) =
      if sign.startsBudget then
        []
      else
        notices story ++ sign.attempt?.toList := by
  unfold notices
  rw [List.reverse_append, List.reverse_singleton,
    List.singleton_append, List.takeWhile_cons]
  cases hStarts : sign.startsBudget with
  | true => simp
  | false => cases hAttempt : sign.attempt? <;> simp [hAttempt]

/- A sign of neither kind is no concern of the budget. -/
theorem notices_concat_of_other
    (story : List Sign)
    {sign : Sign}
    (hStarts : sign.startsBudget = false)
    (hAttempt : sign.attempt? = none) :
    notices (story ++ [sign]) = notices story := by
  rw [notices_concat, hStarts, hAttempt]
  simp

theorem notices_callback (story : List Sign) (e : Event) :
    notices (story ++ [.call e.callback]) = notices story := by
  unfold Event.callback
  split <;> exact notices_concat_of_other story rfl rfl

/- The numbers of the first notices. -/
def numbers (count : Nat) : List UInt32 :=
  (List.range count).map fun i => UInt32.ofNat (i + 1)

theorem numbers_succ (count : Nat) :
    numbers (count + 1) =
      numbers count ++ [UInt32.ofNat (count + 1)] := by
  simp [numbers, List.range_succ]

/- A counter of 32 bits numbers so many notices faithfully. -/
theorem toNat_numbers
    {count : Nat}
    (hCount : count < UInt32.size) :
    (numbers count).map UInt32.toNat =
      (List.range count).map (· + 1) := by
  rw [numbers, List.map_map, List.map_inj_left]
  intro i hMember
  have hLt : i < count := List.mem_range.mp hMember
  have hFits : i + 1 < UInt32.size := by omega
  rw [Function.comp_apply, UInt32.toNat_ofNat']
  exact Nat.mod_eq_of_lt hFits

end Sign

/-
  An operation goes on numbering the notices where the waits
  before it stopped.
-/
theorem Effect.notices_eq
    {now : Time}
    {begun : Array UInt64}
    {c : Client}
    {task : Task}
    {o : Outcome}
    {story : List Sign}
    {earlier : List Remark}
    (hEffect : Effect now begun c task o)
    (hAttempts :
      c.link.attempts = UInt32.ofNat (Remark.waits earlier))
    (hStory :
      Sign.notices story =
        Sign.numbers (Remark.waits earlier)) :
    Sign.notices (story ++ o.signs) =
      Sign.numbers
        (Remark.waits (o.milestones.reverse ++ earlier)) := by
  cases hEffect with
  | nothing _ remarks hStale =>
      have hSilent := Remark.silent_of_isStale hStale
      rw [Outcome.signs, Outcome.milestones, hSilent.1,
        hSilent.2]
      simpa using hStory
  | connect hPhase =>
      rw [Outcome.signs_connect now hPhase,
        Outcome.milestones_connect now hPhase,
        Sign.notices_concat]
      rfl
  | disconnect =>
      rw [Outcome.signs_disconnect,
        Outcome.milestones_disconnect,
        Sign.notices_concat_of_other story rfl rfl]
      exact hStory
  | opening attempt generation r next _ _ _ hNext =>
      rw [Outcome.signs_opening, Outcome.milestones_opening]
      rcases hNext with rfl | ⟨e, rfl⟩
      · exact Sign.notices_concat story _
      · exact Sign.notices_concat story _
  | event attempt generation e =>
      rw [Outcome.signs_accept, Outcome.milestones_accept,
        Sign.notices_callback]
      exact hStory
  | delivery generation e =>
      rw [Outcome.signs_accept, Outcome.milestones_accept,
        Sign.notices_callback]
      exact hStory
  | error attempt generation e =>
      show
        Sign.notices (story ++ [.call (.error e)]) =
          Sign.numbers (Remark.waits earlier)
      rw [Sign.notices_concat_of_other story rfl rfl]
      exact hStory
  | giveUp _ before why hBefore hManual hPhase hWhy =>
      rw [Outcome.signs_giveUp hBefore hWhy,
        Outcome.milestones_giveUp hBefore hWhy,
        Sign.notices_concat_of_other story rfl rfl, hStory]
      cases hWhy <;> rfl
  | retry _ before hBefore =>
      rw [Outcome.signs_retry now hBefore,
        Outcome.milestones_retry now hBefore,
        Sign.notices_concat, hStory]
      show
        Sign.numbers (Remark.waits earlier) ++
            [c.link.attempts + 1] =
          Sign.numbers (Remark.waits earlier + 1)
      rw [Sign.numbers_succ, hAttempts, UInt32.ofNat_add]
      rfl
  | restart =>
      rw [Outcome.signs_restart, Outcome.milestones_restart,
        Sign.notices_concat_of_other story rfl rfl]
      exact hStory
  | detach => simpa [Outcome.signs, Outcome.milestones] using hStory
  | countPing =>
      simpa [Outcome.signs, Outcome.milestones] using hStory

end EventFeed

------------------------------------------------------------
-- Notices of a Run
------------------------------------------------------------

namespace EventFeed

namespace Turn

/-
  The numbers of the notices of a reconnect since the last
  connect or opening, in their order.
-/
def notices (t : Turn) : List UInt32 :=
  Sign.notices t.story

/- At every point the notices are numbered from one. -/
theorem numbered_follow
    (config : Config)
    (moves : List Move) :
    ((fresh config).follow moves).notices =
      Sign.numbers ((fresh config).follow moves).retries := by
  have hBoth :=
    history_induction
      (P := fun t =>
        t.Governed config ∧ t.notices = Sign.numbers t.retries)
      ?_ ?_ (orderly_fresh config)
      ⟨governed_fresh config, rfl⟩ moves
  · exact hBoth.2
  · intro t t' hBefore hStill
    refine ⟨hBefore.1.still hStill, ?_⟩
    rw [notices, hStill.story, retries, hStill.milestones]
    exact hBefore.2
  · intro t t' task o hBefore hActed
    refine ⟨hBefore.1.acted hActed, ?_⟩
    rw [notices, hActed.story, retries, hActed.milestones]
    exact
      hActed.effect.notices_eq hBefore.1.budgeted.attempts
        hBefore.2

end Turn

end EventFeed

------------------------------------------------------------
-- Failures in a Row
------------------------------------------------------------

namespace EventFeed

/-
  Whether a row of failures ends: with a connect, an opening
  or a disconnect.
-/
def Remark.isBreak : Remark → Bool
  | .connecting _ _ => true
  | .connected _ _ => true
  | .disconnected _ => true
  | _ => false

/- Without a break only the answers to failures are waits. -/
theorem Effect.trying
    {now : Time}
    {begun : Array UInt64}
    {c : Client}
    {task : Task}
    {o : Outcome}
    (hEffect : Effect now begun c task o)
    (hFails : c.isFailedBy begun task = false)
    (hBreak : o.milestones.countP Remark.isBreak = 0)
    (hPhase :
      c.link.phase = .connecting ∨
        c.link.phase = .reconnecting)
    (earlier : List Remark) :
    (o.client.link.phase = .connecting ∨
        o.client.link.phase = .reconnecting) ∧
      Remark.waits (o.milestones.reverse ++ earlier) =
        Remark.waits earlier := by
  cases hEffect with
  | nothing _ remarks hStale =>
      rw [Outcome.milestones,
        (Remark.silent_of_isStale hStale).1]
      exact ⟨hPhase, rfl⟩
  | error => exact ⟨hPhase, rfl⟩
  | detach => exact ⟨hPhase, rfl⟩
  | restart =>
      rw [Outcome.milestones_restart]
      exact ⟨Or.inl rfl, rfl⟩
  | delivery =>
      rw [Outcome.milestones_accept]
      exact ⟨hPhase, rfl⟩
  | countPing => exact ⟨hPhase, rfl⟩
  | event _ _ _ _ _ hOpened => simp [hOpened] at hPhase
  -- these break the row
  | connect hAccepts =>
      rw [Outcome.milestones_connect now hAccepts] at hBreak
      contradiction
  | disconnect =>
      rw [Outcome.milestones_disconnect] at hBreak
      contradiction
  | opening =>
      rw [Outcome.milestones_opening] at hBreak
      contradiction
  -- and these answer a failure
  | giveUp _ _ _ _ _ _ _ hOther =>
      rw [hFails] at hOther
      contradiction
  | retry _ _ _ _ _ _ _ hOther =>
      rw [hFails] at hOther
      contradiction

namespace Turn

/- How many connects, openings and disconnects there were. -/
def breaks (t : Turn) : Nat :=
  t.milestones.countP Remark.isBreak

/-
  What has become of a client that did not open after a
  number of failures in a row: it goes on trying, and has
  waited after each of them; or it has closed, after one more
  than the ceiling allows.
-/
inductive Tried
    (ceiling : UInt32)
    (t : Turn)
    (count : Nat) : Prop
  | trying
      (hPhase :
        t.client.link.phase = .connecting ∨
          t.client.link.phase = .reconnecting)
      (hRetries : t.retries = count)
  | spent
      (hPhase : t.client.link.phase = .closed)
      (hCount : count = ceiling.toNat + 1)

variable {config : Config}
variable {ceiling : UInt32}
variable {t : Turn}
variable {count : Nat}

/- The budget is spent with the failure after the last wait. -/
theorem Tried.closed_iff
    (hTried : t.Tried ceiling count)
    (hGoverned : t.Governed config)
    (hCeiling : config.maxAttempts = some ceiling) :
    count ≤ ceiling.toNat + 1 ∧
      (t.client.link.phase = .closed ↔
        count = ceiling.toNat + 1) := by
  cases hTried with
  | trying hPhase hRetries =>
      have hWithin : t.retries ≤ ceiling.toNat :=
        hGoverned.budgeted.within ceiling hCeiling
      have hOpen : t.client.link.phase ≠ .closed := by
        rcases hPhase with hPhase | hPhase <;> simp [hPhase]
      exact
        ⟨by omega, fun h => absurd h hOpen, fun _ => by omega⟩
  | spent hPhase hCount =>
      exact ⟨by omega, fun _ => hCount, fun _ => hPhase⟩

/- A failure counts once more, and the last one closes. -/
theorem Tried.failed
    {t' : Turn}
    {task : Task}
    {before : List Remark}
    (hTried : t.Tried ceiling count)
    (hGoverned : t.Governed config)
    (hAuto : config.autoReconnect = true)
    (hCeiling : config.maxAttempts = some ceiling)
    (hFails : t.client.isFailedBy t.begun task = true)
    (hBefore : Forewarning before)
    (hActed :
      t.Acted task (t.client.recover t.now before) t') :
    t'.Tried ceiling (count + 1) := by
  rcases Effect.active_of_isFailedBy hFails with
    ⟨hManual, hActive⟩
  have hConfig := hGoverned.configured
  have hClient := hActed.client
  have hMilestones := hActed.milestones
  cases hTried with
  | spent hPhase =>
      rw [hPhase] at hActive
      contradiction
  | trying hPhase hRetries =>
      rcases Link.recover_cases t.client.config t.now hManual
          hActive with
        ⟨why, hWhy, hEq⟩ | ⟨_, _, hEq⟩
      · rw [Client.recover, hEq] at hClient
        have hWithin : t.retries ≤ ceiling.toNat :=
          hGoverned.budgeted.within ceiling hCeiling
        have hCount :
            t.client.link.attempts.toNat = t.retries :=
          hGoverned.budgeted.toNat_attempts
            (hGoverned.budgeted.waits_lt hCeiling)
        refine .spent (by rw [hClient]; rfl) ?_
        rw [hConfig] at hWhy
        cases hWhy with
        | lost hOff =>
            rw [hAuto] at hOff
            contradiction
        | gaveUp _ other hOther hSpent =>
            rw [hCeiling, Option.some.injEq] at hOther
            rw [← hOther, UInt32.le_iff_toNat_le] at hSpent
            omega
      · rw [Client.recover, hEq] at hClient hMilestones
        refine .trying (by rw [hClient]; exact Or.inr rfl) ?_
        rw [retries, hMilestones,
          Outcome.milestones_retry t.now hBefore]
        show Remark.waits t.milestones + 1 = count + 1
        rw [← hRetries]
        rfl

/- A move counts if it takes in a failure. -/
theorem Tried.move
    (hTried : t.Tried ceiling count)
    (hOrderly : t.Orderly)
    (hGoverned : t.Governed config)
    (hAuto : config.autoReconnect = true)
    (hCeiling : config.maxAttempts = some ceiling)
    (m : Move)
    (hBreaks : (t.move m).breaks ≤ t.breaks) :
    (t.move m).Tried ceiling
      (count + if t.takesFailure m then 1 else 0) := by
  rcases move_cases hOrderly m with
    ⟨hTakes, task, before, hFails, hBefore, hActed⟩ |
      ⟨hTakes, hStill | ⟨task, o, hFails, hActed⟩⟩
  · rw [hTakes, if_pos rfl]
    exact
      hTried.failed hGoverned hAuto hCeiling hFails hBefore hActed
  · rw [hTakes]
    cases hTried with
    | trying hPhase hRetries =>
        refine .trying (by rw [hStill.link]; exact hPhase) ?_
        rw [retries, hStill.milestones]
        exact hRetries
    | spent hPhase hCount =>
        exact .spent (by rw [hStill.link]; exact hPhase) hCount
  · rw [hTakes]
    have hSum :
        (t.move m).breaks =
          o.milestones.countP Remark.isBreak + t.breaks :=
      hActed.countP_milestones Remark.isBreak
    have hBreak : o.milestones.countP Remark.isBreak = 0 := by
      omega
    cases hTried with
    | trying hPhase hRetries =>
        rcases hActed.effect.trying hFails hBreak hPhase
            t.milestones with
          ⟨hLater, hWaits⟩
        refine .trying (by rw [hActed.client]; exact hLater) ?_
        rw [retries, hActed.milestones, hWaits]
        exact hRetries
    | spent hPhase hCount =>
        have hConnect :
            o.milestones.countP Remark.isConnect = 0 := by
          have hLe :
              o.milestones.countP Remark.isConnect ≤
                o.milestones.countP Remark.isBreak := by
            apply List.countP_mono_left
            intro r _ hConnect
            cases r <;> first | rfl | contradiction
          omega
        have hClosed :=
          (hActed.effect.closed hPhase hConnect).1
        exact
          .spent (by rw [hActed.client]; exact hClosed) hCount

/- The failures of a run without a break add up. -/
theorem tried_follow
    (hTried : t.Tried ceiling count)
    (hOrderly : t.Orderly)
    (hGoverned : t.Governed config)
    (hAuto : config.autoReconnect = true)
    (hCeiling : config.maxAttempts = some ceiling)
    (moves : List Move)
    (hBreaks : (t.follow moves).breaks ≤ t.breaks) :
    (t.follow moves).Tried ceiling
      (count + t.failures moves) := by
  induction moves generalizing t count with
  | nil => exact hTried
  | cons m moves ih =>
      rw [follow_cons] at hBreaks ⊢
      have hOrderly' : (t.move m).Orderly :=
        orderly_move hOrderly m
      have hRest : (t.move m).breaks ≤ t.breaks :=
        Nat.le_trans
          (countP_milestones_le_follow hOrderly' Remark.isBreak
            moves)
          hBreaks
      have hSince : t.breaks ≤ (t.move m).breaks :=
        countP_milestones_le_follow hOrderly Remark.isBreak [m]
      have hNext :=
        hTried.move hOrderly hGoverned hAuto hCeiling m hRest
      have hGoverned' : (t.move m).Governed config :=
        hGoverned.follow hOrderly [m]
      rw [failures, ← Nat.add_assoc]
      exact
        ih hNext hOrderly' hGoverned' (by omega)

end Turn

end EventFeed

------------------------------------------------------------
-- The Budget of a Run
------------------------------------------------------------

namespace EventFeed

namespace Turn

variable {config : Config}
variable {t : Turn}
variable {task : Task}
variable {rest : List Task}

/- A client that was just connected has failed no time yet. -/
theorem tried_connect
    (ceiling : UInt32)
    (hOrderly : t.Orderly)
    (hAgenda : t.agenda = .act .connect :: rest)
    (hHeld : t.held = true)
    (hAccepted : t.client.connectRefusal? = none) :
    t.step.Tried ceiling 0 := by
  have hStep :
      t.step =
        { { t with agenda := rest }.take
            (t.client.connect t.now) with
          answers := .accepted :: t.answers } := by
    simp [step, hAgenda, run, act, ifHeld, hHeld, hAccepted,
      reply, take]
  have hEffect :
      Effect t.now t.begun t.client (.act .connect)
        (t.client.connect t.now) :=
    .of_connect hAccepted
  have hPhase : t.client.link.phase.acceptsConnect = true := by
    unfold Client.connectRefusal? at hAccepted
    split at hAccepted
    · assumption
    · contradiction
  have hActed :
      t.Acted (.act .connect) (t.client.connect t.now)
        t.step := by
    rw [hStep]
    exact
      acted_of_take hOrderly hAgenda rfl hEffect rfl rfl rfl rfl
  refine .trying ?_ ?_
  · rw [hActed.client,
      Client.connect_of_accepted t.now hPhase]
    exact Or.inl rfl
  · rw [retries, hActed.milestones,
      Outcome.milestones_connect t.now hPhase]
    rfl

/- Below the ceiling, or without one, a failure is no end. -/
theorem retried_of_isFailedBy
    (hOrderly : t.Orderly)
    (hGoverned : t.Governed config)
    (hAuto : config.autoReconnect = true)
    (hBudget :
      ∀ ceiling, config.maxAttempts = some ceiling →
        t.client.link.attempts < ceiling)
    (hAgenda : t.agenda = task :: rest)
    (hFails : t.isFailedBy task = true) :
    t.Retried t.step := by
  rcases answered_of_isFailedBy hOrderly hGoverned hAgenda hFails
    with ⟨_, hOff | ⟨ceiling, hCeiling, hSpent⟩⟩ | ⟨hRetried, _⟩
  · rw [hAuto] at hOff
    contradiction
  · have hLt := hBudget ceiling hCeiling
    exact absurd hLt (UInt32.not_lt.mpr hSpent)
  · exact hRetried

/- At the ceiling a failure is the end. -/
theorem gaveUp_of_isFailedBy
    {ceiling : UInt32}
    (hOrderly : t.Orderly)
    (hGoverned : t.Governed config)
    (hCeiling : config.maxAttempts = some ceiling)
    (hSpent : t.client.link.attempts = ceiling)
    (hAgenda : t.agenda = task :: rest)
    (hFails : t.isFailedBy task = true) :
    t.GaveUp t.step := by
  rcases answered_of_isFailedBy hOrderly hGoverned hAgenda hFails
    with ⟨hGaveUp, _⟩ | ⟨_, _, hBudget⟩
  · exact hGaveUp
  · have hLt := hBudget ceiling hCeiling
    rw [hSpent] at hLt
    exact absurd hLt (UInt32.lt_irrefl ceiling)

/-
  What holds of the budget of reconnects.  With a ceiling, a
  failure is answered by a notice of a reconnect for as long
  as the counter is below it; a row of failures after a
  connect, without an opening, closes the client just when
  there is one more of them than the ceiling allows.
-/
structure Rationed (config : Config) (t : Turn) : Prop where
  counted :
    t.client.link.attempts.toNat = t.notices.length
  numbered :
    t.notices.map UInt32.toNat =
      (List.range t.notices.length).map (· + 1)
  within :
    ∀ ceiling, config.maxAttempts = some ceiling →
      t.client.link.attempts ≤ ceiling
  below :
    ∀ ceiling task rest,
      config.autoReconnect = true →
      config.maxAttempts = some ceiling →
      t.agenda = task :: rest →
      t.isFailedBy task = true →
      t.client.link.attempts < ceiling →
        t.Retried t.step
  spent :
    ∀ ceiling task rest,
      config.autoReconnect = true →
      config.maxAttempts = some ceiling →
      t.agenda = task :: rest →
      t.isFailedBy task = true →
      t.client.link.attempts = ceiling →
        t.GaveUp t.step
  row :
    ∀ ceiling rest after,
      config.autoReconnect = true →
      config.maxAttempts = some ceiling →
      t.agenda = .act .connect :: rest →
      t.held = true →
      t.client.connectRefusal? = none →
      (t.step.follow after).breaks = t.step.breaks →
        t.step.failures after ≤ ceiling.toNat + 1 ∧
          ((t.step.follow after).client.link.phase = .closed ↔
            t.step.failures after = ceiling.toNat + 1)
  unlimited :
    ∀ task rest,
      config.autoReconnect = true →
      config.maxAttempts = none →
      t.agenda = task :: rest →
      t.isFailedBy task = true →
        t.Retried t.step

/- The notices are as many as the waits since then. -/
theorem length_notices_follow
    (config : Config)
    (moves : List Move) :
    ((fresh config).follow moves).notices.length =
      ((fresh config).follow moves).retries := by
  rw [numbered_follow, Sign.numbers, List.length_map,
    List.length_range]

/-
  At every point of every run the counter is the number of
  the notices since the last connect or opening, and the
  budget that the configuration gives is kept.  The counter
  has 32 bits, so without a ceiling there must have been fewer
  notices than it can count.
-/
theorem rationed_follow
    (config : Config)
    (moves : List Move)
    {t : Turn}
    (hReached : t = (fresh config).follow moves)
    (hFew :
      config.maxAttempts = none →
        t.notices.length < UInt32.size) :
    t.Rationed config := by
  subst hReached
  have hOrderly := orderly_follow (orderly_fresh config) moves
  have hGoverned := governed_follow config moves
  have hBudgeted := hGoverned.budgeted
  have hLength := length_notices_follow config moves
  rw [hLength] at hFew
  have hFits :
      ((fresh config).follow moves).retries < UInt32.size :=
    hBudgeted.waits_lt_of_few hFew
  constructor
  · rw [hLength]
    exact hBudgeted.toNat_attempts hFits
  · rw [hLength, numbered_follow]
    exact Sign.toNat_numbers hFits
  · intro ceiling hCeiling
    rw [UInt32.le_iff_toNat_le, hBudgeted.toNat_attempts hFits]
    exact hBudgeted.within ceiling hCeiling
  · intro ceiling task rest hAuto hCeiling hAgenda hFails hLt
    refine
      retried_of_isFailedBy hOrderly hGoverned hAuto ?_ hAgenda
        hFails
    intro other hOther
    rw [hCeiling, Option.some.injEq] at hOther
    rw [← hOther]
    exact hLt
  · intro ceiling task rest _ hCeiling hAgenda hFails hSpent
    exact
      gaveUp_of_isFailedBy hOrderly hGoverned hCeiling hSpent
        hAgenda hFails
  · intro ceiling rest after hAuto hCeiling hAgenda hHeld
      hAccepted hBreaks
    have hStart :=
      tried_connect ceiling hOrderly hAgenda hHeld hAccepted
    have hOrderly' := orderly_move hOrderly .step
    have hGoverned' := hGoverned.follow hOrderly [.step]
    have hEnd :=
      tried_follow hStart hOrderly' hGoverned' hAuto hCeiling
        after (Nat.le_of_eq hBreaks)
    rw [Nat.zero_add] at hEnd
    exact
      hEnd.closed_iff (hGoverned'.follow hOrderly' after) hCeiling
  · intro task rest hAuto hNone hAgenda hFails
    refine
      retried_of_isFailedBy hOrderly hGoverned hAuto ?_ hAgenda
        hFails
    intro ceiling hCeiling
    rw [hNone] at hCeiling
    contradiction

/-
  Two attempts fail in a row.  Without a ceiling there are two
  notices then; with a ceiling of one the second failure finds
  the budget used up.
-/
theorem rationed_follow_second_failure :
    ∃ t t' : Turn,
      t.notices = [1, 2] ∧
        t.Rationed
          { (default : Config) with autoReconnect := true } ∧
        t'.agenda = [.act (.report 1 .closed)] ∧
        t'.isFailedBy (.act (.report 1 .closed)) = true ∧
        t'.client.link.attempts = 1 ∧
        t'.Rationed
          { (default : Config) with
            autoReconnect := true
            maxAttempts := some 1 } := by
  have hUnlimited :=
    rationed_follow
      { (default : Config) with autoReconnect := true }
      [.act .connect, .step, .begin,
        .act (.report 0 .closed), .step, .step,
        .timer 2, .step, .step, .begin,
        .act (.report 1 .closed), .step]
      rfl (fun _ => by decide)
  have hCeiling :=
    rationed_follow
      { (default : Config) with
        autoReconnect := true
        maxAttempts := some 1 }
      [.act .connect, .step, .begin,
        .act (.report 0 .closed), .step, .step,
        .timer 2, .step, .step, .begin,
        .act (.report 1 .closed)]
      rfl nofun
  exact
    ⟨_, _, by decide, hUnlimited, rfl, by decide, by decide,
      hCeiling⟩

end Turn

end EventFeed
