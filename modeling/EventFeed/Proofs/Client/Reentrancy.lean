import EventFeed.Proofs.Client.Mirror

/-
  This file proves that calls from handlers act as if they were
  made right after the operation that called the handler.

  A run in which handlers connect and disconnect, to any depth,
  is followed step by step by its flat run.  The invariant
  splits the agenda: entries of handlers that are running stand
  above, and at most one entry that is not up to a handler
  stands below them.  No operation of a handler touches that
  one, and when it is seen to it finds what a fresh operation
  would find.

  Key definitions include:
    * `Turn.Rooted`
    * `Turn.Echoes`
    * `Turn.Matches`

  Key results include:
    * `Turn.echoes_delivery`
    * `Turn.echoes_step`
    * `Turn.echoes_move`
    * `Turn.Echoes.follow`
    * `Turn.flattened_follow`
-/

------------------------------------------------------------
-- Turns and Their Echoes
------------------------------------------------------------

namespace EventFeed

namespace Turn

variable {t t' : Turn}
variable {s : Echo}
variable {pings more : UInt64}
variable {task : Task}
variable {rest above root : List Task}

/-
  What stands below the calls of handlers: nothing, an entry
  that was not seen to yet, an event on its way, or a ping to
  be counted.
-/
inductive Rooted
    (s : Echo)
    (t : Turn)
    (now : Time) :
    List Task → UInt64 → Prop
  | idle (hLate : s.late = 0) : Rooted s t now [] 0
  | root
      (task : Task)
      (hRoot : task.isRoot = true)
      (hAlive : (∀ a, task ≠ .act a) → t.alive = true)
      (hLate : s.late = 0) :
      Rooted s t now [task] 0
  | delivery
      (generation : UInt64)
      (e : Event)
      (hAlive : t.alive = true)
      (hBegun : t.begun[s.attempt]? = some generation)
      (hWatch :
        t.client.link.phase = .opened →
          t.client.link.keepalive.alarm =
            some
              (.waiting
                (now + t.client.link.keepalive.window))) :
      Rooted s t now [.owe (.deliver generation e)] 0
  | ping (hLate : s.late = 0) :
      Rooted s t now [.owe .countPing] 1

/- The other turn is what a flat run has made of this one. -/
def Echoes (s : Echo) (t t' : Turn) : Prop :=
  ∃ above root pings,
    t.agenda = above ++ root ∧
      (∀ task ∈ above, task.isNested = true) ∧
      Rooted s t t'.now root pings ∧
      t.Mirrors s pings t'

/- What is below stays there while handlers run above it. -/
theorem Rooted.keep
    {t₁ : Turn}
    {now now₁ : Time}
    {root : List Task}
    (hRooted : Rooted s t now root pings)
    (hAlive : t₁.alive = t.alive)
    (hBegun : t₁.begun = t.begun)
    (hNow : now₁ = now)
    (hLink :
      t₁.client.link = t.client.link ∨
        t₁.client.link.phase ≠ .opened) :
    Rooted s t₁ now₁ root pings := by
  subst hNow
  cases hRooted with
  | idle hLate => exact .idle hLate
  | root task hRoot hSince hLate =>
      refine .root task hRoot ?_ hLate
      rw [hAlive]
      exact hSince
  | delivery generation e hSince hNumber hWatch =>
      refine .delivery generation e ?_ ?_ ?_
      · rw [hAlive]
        exact hSince
      · rw [hBegun]
        exact hNumber
      · intro hOpened
        rcases hLink with hSame | hOther
        · rw [hSame] at hOpened ⊢
          exact hWatch hOpened
        · contradiction
  | ping hLate => exact .ping hLate

/- Nothing is kept back or counted while nothing is to be done. -/
theorem Echoes.of_idle
    (hEchoes : t.Echoes s t')
    (hIdle : t.agenda = []) :
    s.late = 0 ∧ t.Mirrors s 0 t' := by
  rcases hEchoes with
    ⟨above, root, pings, hAgenda, hNested, hRooted, hMirrors⟩
  rw [hIdle] at hAgenda
  have hRoot := (List.append_eq_nil_iff.mp hAgenda.symm).2
  subst hRoot
  cases hRooted with
  | idle hLate => exact ⟨hLate, hMirrors⟩

theorem echoes_of_idle
    (hMirrors : t.Mirrors s 0 t')
    (hIdle : t.agenda = [])
    (hLate : s.late = 0) :
    t.Echoes s t' :=
  ⟨[], [], 0, hIdle, by simp, .idle hLate, hMirrors⟩

/- What an operation owes stands above a ping to be counted. -/
theorem echoes_of_brief
    {owed : List Duty}
    (hMirrors : t.Mirrors s more t')
    (hAgenda : t.agenda = owed.map Task.owe)
    (hBrief : Brief owed more)
    (hLate : s.late = 0) :
    t.Echoes s t' := by
  cases hBrief with
  | none => exact echoes_of_idle hMirrors hAgenda hLate
  | call c =>
      refine
        ⟨[.owe (.call c)], [], 0, hAgenda, ?_, .idle hLate,
          hMirrors⟩
      simp [Task.isNested]
  | ping c =>
      refine
        ⟨[.owe (.call c)], [.owe .countPing], 1, hAgenda, ?_,
          .ping hLate, hMirrors⟩
      simp [Task.isNested]

------------------------------------------------------------
-- What Handlers Do
------------------------------------------------------------

theorem link_switch
    (t : Turn)
    {a : Action}
    (hSwitch : a.isSwitch = true) :
    (t.outcome (.act a)).client.link = t.client.link ∨
      (t.outcome (.act a)).client.link.phase ≠ .opened := by
  cases a with
  | connect =>
      simp only [outcome, Client.connect]
      split
      · split
        · exact Or.inr Phase.noConfusion
        · exact Or.inl rfl
      · exact Or.inl rfl
  | disconnect =>
      simp only [outcome]
      split
      · exact Or.inr Phase.noConfusion
      · exact Or.inl rfl
  | _ => contradiction

/- What an operation owes at first are calls of handlers. -/
theorem nested_of_brief
    {owed : List Duty}
    (hBrief : Brief owed 0) :
    ∀ task ∈ owed.map Task.owe, task.isNested = true := by
  generalize hNone : (0 : UInt64) = none at hBrief
  cases hBrief with
  | none => simp
  | call c => simp [Task.isNested]
  | ping c => contradiction

/- A connect or disconnect of a handler comes right after. -/
theorem echoes_switch
    {a : Action}
    (hOrderly : t.Orderly)
    (hSwitch : a.isSwitch = true)
    (hAgenda : t.agenda = .act a :: (above ++ root))
    (hNested : ∀ task ∈ above, task.isNested = true)
    (hRooted : Rooted s t t'.now root pings)
    (hMirrors : t.Mirrors s pings t') :
    t.step.Echoes s (t'.follow (Move.act a).whole) ∧
      t'.verdicts (Move.act a).whole = t.verdict .step := by
  have hStands := standsFor_switch hMirrors hSwitch
  have hMove := move_act hMirrors.idle a
  have hWhole :=
    hMirrors.whole s.attempt hOrderly hAgenda hStands hMove rfl
  rcases step_eq_take hAgenda hStands.taken with
    ⟨answers, hStep⟩
  constructor
  · -- what it owes is put on top; what is below stays there
    refine
      ⟨(t.outcome (.act a)).owed.map Task.owe ++ above, root,
        pings, ?_, ?_, ?_, ?_⟩
    · rw [hStep, List.append_assoc]
      rfl
    · intro task hMember
      rcases List.mem_append.mp hMember with hNew | hOld
      · exact nested_of_brief (t.brief_switch hSwitch) task hNew
      · exact hNested task hOld
    · apply hRooted.keep
      · rw [hStep]
        rfl
      · rw [hStep]
        rfl
      · apply hMirrors.now_eq hWhole.1 rfl
        rw [hStep]
        rfl
      · rw [hStep]
        exact t.link_switch hSwitch
    · have hSame : pings + 0 = pings := UInt64.add_zero pings
      rw [← hSame]
      exact hWhole.1
  · rw [hWhole.2]
    cases a with
    | connect =>
        rw [verdict_connect hAgenda, verdict_connect rfl]
        exact
          congrArg (fun answer => [answer]) hMirrors.permission
    | disconnect =>
        rw [verdict_of_ne hAgenda (by simp),
          verdict_of_ne rfl (by simp)]
    | _ => contradiction

/- A step that lets a handler go on, or return. -/
theorem step_of_return
    (hReturn :
      (∃ a, task = .note a) ∨
        ∃ slot answers, task = .leave slot answers)
    (hAgenda : t.agenda = task :: rest) :
    ∃ (answers : List Answer) (new : List Observation),
      (∀ o ∈ new, o.heard? = none) ∧
        task.isCall = false ∧
        t.step =
          { t with
            agenda := rest
            answers := answers
            seen := new ++ t.seen } := by
  unfold step
  rw [hAgenda]
  rcases hReturn with ⟨a, rfl⟩ | ⟨slot, answers, rfl⟩
  · refine ⟨_, [.did a _], ?_, rfl, rfl⟩
    simp [Observation.heard?]
  · refine ⟨answers, [], ?_, rfl, rfl⟩
    simp

theorem echoes_return
    (hOrderly : t.Orderly)
    (hReturn :
      (∃ a, task = .note a) ∨
        ∃ slot answers, task = .leave slot answers)
    (hAgenda : t.agenda = task :: (above ++ root))
    (hNested : ∀ task ∈ above, task.isNested = true)
    (hRooted : Rooted s t t'.now root pings)
    (hMirrors : t.Mirrors s pings t') :
    t.step.Echoes s t' := by
  rcases step_of_return hReturn hAgenda with
    ⟨answers, new, hNew, hCall, hStep⟩
  rw [hStep]
  refine ⟨above, root, pings, rfl, hNested, ?_, ?_⟩
  · exact hRooted.keep rfl rfl rfl (Or.inl rfl)
  · have hNone :
        new.reverse.filterMap Observation.heard? = [] := by
      rw [List.filterMap_eq_nil_iff]
      intro o hMember
      exact hNew o (List.mem_reverse.mp hMember)
    refine hMirrors.aside rfl rfl rfl rfl hMirrors.client ?_
    rw [owedHearings_of_cons hOrderly hAgenda,
      heard?_of_isCall _ hCall]
    simp [hearings, owedHearings, hNone,
      heard?_of_cons hOrderly hAgenda]

/-
  A call is handed over.  If it is heard, what the handler does
  comes next, and then its return.
-/
theorem step_of_call
    {c : Callback}
    (hMirrors : t.Mirrors s pings t')
    (hAgenda : t.agenda = .owe (.call c) :: rest) :
    ∃ (handlers : Registry Handler) (front : List Task),
      Client.Mirrors s.slipped s.extra pings
          (t.client.withHandlers handlers) t'.client ∧
        (∀ task ∈ front,
          task.isNested = true ∧ task.isCall = false) ∧
        t.step =
          { t with
            client := t.client.withHandlers handlers
            agenda := front ++ rest
            seen :=
              .call c (t.client.handlers.isRegistered c.slot) ::
                t.seen } := by
  cases hGet : t.client.handlers.get c.slot with
  | none =>
      refine
        ⟨t.client.handlers, [], hMirrors.client, by simp, ?_⟩
      rw [step_unheard hAgenda hGet]
      simp [Registry.isRegistered, hGet, Client.withHandlers]
  | some handler =>
      have hSwitch :=
        isSwitch_cases
          (hMirrors.client.switching c.slot handler hGet)
      refine
        ⟨_,
          (handler.headD []).flatMap
              (fun a => [.act a, .note a]) ++
            [.leave c.slot t.answers],
          hMirrors.client.tail hGet, ?_, ?_⟩
      · intro task hMember
        simp only [List.mem_append, List.mem_flatMap,
          List.mem_cons, List.not_mem_nil, or_false] at hMember
        rcases hMember with ⟨a, hAction, rfl | rfl⟩ | rfl
        · exact ⟨hSwitch.1 a hAction, rfl⟩
        · exact ⟨rfl, rfl⟩
        · exact ⟨rfl, rfl⟩
      · unfold step
        rw [hAgenda]
        simp [run, handCall, hGet, Registry.isRegistered]

theorem echoes_call
    {c : Callback}
    (hOrderly : t.Orderly)
    (hAgenda : t.agenda = .owe (.call c) :: (above ++ root))
    (hNested : ∀ task ∈ above, task.isNested = true)
    (hRooted : Rooted s t t'.now root pings)
    (hMirrors : t.Mirrors s pings t') :
    t.step.Echoes s t' := by
  rcases step_of_call hMirrors hAgenda with
    ⟨handlers, front, hClient, hFront, hStep⟩
  rw [hStep]
  refine ⟨front ++ above, root, pings, ?_, ?_, ?_, ?_⟩
  · exact (List.append_assoc front above root).symm
  · intro task hMember
    rcases List.mem_append.mp hMember with hNew | hOld
    · exact (hFront task hNew).1
    · exact hNested task hOld
  · exact hRooted.keep rfl rfl rfl (Or.inl rfl)
  · have hNone :
        (front ++ (above ++ root)).filterMap
            (Task.heard? handlers) =
          [] := by
      rw [List.filterMap_append,
        heard?_of_cons hOrderly hAgenda, List.append_nil]
      apply filterMap_heard?
      intro task hMember
      exact (hFront task hMember).2
    refine hMirrors.aside rfl rfl rfl rfl hClient ?_
    rw [owedHearings_of_cons hOrderly hAgenda]
    simp only [hearings, owedHearings, Client.withHandlers,
      hNone, List.reverse_cons, List.filterMap_append,
      List.append_nil]
    rfl

------------------------------------------------------------
-- What Handlers Interrupt
------------------------------------------------------------

/- The operation of a flat run that stands for an entry. -/
theorem flatTask_root
    (t t' : Turn)
    (s : Echo)
    (hRoot : task.isRoot = true)
    (hPlain :
      ∀ attempt e, task = .act (.report attempt (.event e)) →
        t.isOpenedBy attempt = false)
    (hIdle : t'.agenda = [])
    (hAlive : (∀ a, task ≠ .act a) → t'.alive = true) :
    ∃ m : Move,
      t.flatTask s task = m.whole ∧
        t'.move m = { t' with agenda := [echoTask s task] } ∧
        t'.verdict m = [] := by
  have hPut := move_act hIdle
  cases task with
  | act a =>
      cases a with
      | report attempt r =>
          refine ⟨.act (.report attempt r), ?_, hPut _, rfl⟩
          cases r with
          | event e =>
              simp [flatTask, hPlain attempt e rfl]
          | _ => rfl
      | register slot reactions =>
          exact ⟨_, rfl, hPut _, rfl⟩
      | _ => exact ⟨_, rfl, hPut _, rfl⟩
  | fireTimer generation =>
      refine ⟨_, rfl, ?_, rfl⟩
      have hHere := hAlive fun _ => Task.noConfusion
      simp [move, put, isFree, hIdle, hHere, echoTask]
  | fireAlarm generation token =>
      refine ⟨_, rfl, ?_, rfl⟩
      have hHere := hAlive fun _ => Task.noConfusion
      simp [move, put, isFree, hIdle, hHere, echoTask]
  | _ => contradiction

theorem ne_connect_of_isRoot
    (hRoot : task.isRoot = true) :
    task ≠ .act .connect ∧
      echoTask s task ≠ .act .connect := by
  cases task with
  | act a =>
      cases a <;>
        first | contradiction | simp [echoTask]
  | fireTimer generation => simp [echoTask]
  | fireAlarm generation token => simp [echoTask]
  | _ => contradiction

theorem echoes_root
    (hOrderly : t.Orderly)
    (hAgenda : t.agenda = [task])
    (hRoot : task.isRoot = true)
    (hRelease : task ≠ .act .release)
    (hAlive : (∀ a, task ≠ .act a) → t.alive = true)
    (hPlain :
      ∀ attempt e,
        task = .act (.report attempt (.event e)) →
          t.isOpenedBy attempt = false)
    (hMirrors : t.Mirrors s 0 t')
    (hLate : s.late = 0)
    (attempt : Nat) :
    t.step.Echoes { s with attempt := attempt }
        (t'.follow (t.flatTask s task)) ∧
      t'.verdicts (t.flatTask s task) = t.verdict .step := by
  have hNow := hMirrors.now_of_late hLate
  rcases standsFor_root hMirrors hNow hRoot hRelease hPlain with
    ⟨more, hStands, hBrief⟩
  rcases
    flatTask_root t t' s hRoot hPlain hMirrors.idle
      (hMirrors.alive.symm ▸ hAlive) with
    ⟨m, hFlat, hMove, hQuiet⟩
  have hWhole :=
    hMirrors.whole attempt hOrderly hAgenda hStands hMove hQuiet
  rcases step_eq_take hAgenda hStands.taken with
    ⟨answers, hStep⟩
  rcases ne_connect_of_isRoot (s := s) hRoot with
    ⟨hOther, hOther'⟩
  rw [hFlat]
  constructor
  · have hSame : 0 + more = more := UInt64.zero_add more
    rw [hSame] at hWhole
    apply echoes_of_brief hWhole.1 _ hBrief hLate
    rw [hStep]
    simp [Turn.take]
  · rw [hWhole.2, verdict_of_ne hAgenda hOther,
      verdict_of_ne rfl hOther']

/- A handle is given up on both sides. -/
theorem echoes_release
    (hAgenda : t.agenda = [.act .release])
    (hMirrors : t.Mirrors s 0 t')
    (hLate : s.late = 0) :
    t.step.Echoes s (t'.follow (Move.act .release).whole) ∧
      t'.verdicts (Move.act .release).whole =
        t.verdict .step := by
  have hMove := move_act hMirrors.idle .release
  have hStep :
      t.step =
        { t with
          held := false
          agenda := []
          answers := .done :: t.answers } := by
    unfold step
    rw [hAgenda]
    rfl
  have hIdle : (t'.run (.act .release)).agenda = [] :=
    hMirrors.idle
  have hDone := step_idle hIdle
  constructor
  · rw [follow_whole hMirrors.idle hMove, hDone, hDone, hDone]
    have hHearings := hMirrors.hearings
    unfold owedHearings at hHearings
    rw [hAgenda] at hHearings
    rw [hStep]
    apply echoes_of_idle _ rfl hLate
    exact
      { hMirrors with
        held := rfl
        hearings := hHearings }
  · have hQuiet :
        (t'.run (.act .release)).verdicts
            [.step, .step, .step] = [] := by
      simp [verdicts, verdict, move, hDone, hIdle]
    rw [verdicts_whole hMirrors.idle hMove rfl hQuiet,
      verdict_of_ne hAgenda (by simp),
      verdict_of_ne rfl (by simp)]

/- A ping has been counted beforehand. -/
theorem echoes_ping
    (hAgenda : t.agenda = [.owe .countPing])
    (hMirrors : t.Mirrors s 1 t')
    (hLate : s.late = 0) :
    t.step.Echoes s t' := by
  rw [step_countPing hAgenda]
  apply echoes_of_idle _ rfl hLate
  apply hMirrors.aside
  · rfl
  · rfl
  · rfl
  · rfl
  · exact hMirrors.client.recounted
  · simp [hearings, owedHearings, hAgenda, Task.heard?,
      Duty.heard?]

/- An event that opens the connection begins as its opening. -/
theorem echoes_opening
    (hOrderly : t.Orderly)
    {attempt : Nat}
    {e : Event}
    (hAgenda : t.agenda = [.act (.report attempt (.event e))])
    (hOpens : t.isOpenedBy attempt = true)
    (hMirrors : t.Mirrors s 0 t')
    (hLate : s.late = 0) :
    t.step.Echoes { s with attempt := attempt }
        (t'.follow
          (Move.act (.report attempt .opened)).whole) ∧
      t'.verdicts (Move.act (.report attempt .opened)).whole =
        t.verdict .step := by
  have hNow := hMirrors.now_of_late hLate
  rcases exists_of_isOpenedBy hOpens with
    ⟨generation, hBegun, hAlive, hLive, hPhase⟩
  rcases
    standsFor_opening hMirrors hNow hBegun hAlive hLive hPhase
      e with
    ⟨hEvent, hStands⟩
  have hMove := move_act hMirrors.idle (.report attempt .opened)
  have hWhole :=
    hMirrors.whole attempt hOrderly hAgenda hStands hMove rfl
  rcases step_eq_take hAgenda hStands.taken with
    ⟨answers, hStep⟩
  rw [hEvent] at hStep
  constructor
  · refine
      ⟨[.owe (.call .opened)], [.owe (.deliver generation e)],
        0, ?_, by simp [Task.isNested], ?_, hWhole.1⟩
    · rw [hStep]
      rfl
    · apply Rooted.delivery
      · rw [hStep]
        exact hAlive
      · rw [hStep]
        exact hBegun
      · -- the watch was reset at the instant of the opening
        intro _
        have hSame : t.step.now = t.now := by
          rw [hStep]
          rfl
        have hLater := hMirrors.now_eq hWhole.1 rfl hSame
        rw [hLater, hNow, hStep]
        rfl
  · rw [hWhole.2, verdict_of_ne hAgenda (by simp),
      verdict_of_ne rfl (by simp)]

/- An event that was on its way is delivered. -/
theorem echoes_delivery
    (hOrderly : t.Orderly)
    {generation : UInt64}
    {e : Event}
    (hAgenda : t.agenda = [.owe (.deliver generation e)])
    (hOpened :
      t.client.link.isLive generation = true →
        t.client.link.phase = .opened)
    (hAlive : t.alive = true)
    (hBegun : t.begun[s.attempt]? = some generation)
    (hWatch :
      t.client.link.phase = .opened →
        t.client.link.keepalive.alarm =
          some
            (.waiting (t'.now + t.client.link.keepalive.window)))
    (hMirrors : t.Mirrors s 0 t') :
    t.step.Echoes (t.echo s .step)
        (t'.follow
          (t.flatTask s (.owe (.deliver generation e)))) ∧
      t'.verdicts (t.flatTask s (.owe (.deliver generation e))) =
        t.verdict .step := by
  rcases
    standsFor_delivery hMirrors hAlive hBegun hOpened hWatch
      e with
    ⟨more, hStands, hBrief⟩
  have hMove :=
    move_act hMirrors.idle (.report s.attempt (.event e))
  have hWhole :=
    hMirrors.whole s.attempt hOrderly hAgenda hStands hMove rfl
  rcases step_eq_take hAgenda hStands.taken with
    ⟨answers, hStep⟩
  have hFlat :
      t.flatTask s (.owe (.deliver generation e)) =
        (Move.act (.report s.attempt (.event e))).whole ++
          [.wait s.late] := by
    rfl
  rw [hFlat, follow_append, verdicts_append]
  constructor
  · have hWaited := hWhole.1.waited
    have hSame : 0 + more = more := UInt64.zero_add more
    rw [hSame] at hWaited
    simp only [echo, hAgenda]
    apply echoes_of_brief hWaited _ hBrief rfl
    rw [hStep]
    simp [Turn.take]
  · rw [hWhole.2, verdict_of_ne hAgenda (by simp),
      verdict_of_ne rfl (by simp)]
    rfl

------------------------------------------------------------
-- Steps
------------------------------------------------------------

theorem echoes_start
    (hOrderly : t.Orderly)
    (hAgenda : t.agenda = [task])
    (hRoot : task.isRoot = true)
    (hAlive : (∀ a, task ≠ .act a) → t.alive = true)
    (hMirrors : t.Mirrors s 0 t')
    (hLate : s.late = 0) :
    t.step.Echoes (t.echo s .step)
        (t'.follow (t.flatTask s task)) ∧
      t'.verdicts (t.flatTask s task) = t.verdict .step := by
  by_cases hRelease : task = .act .release
  · subst hRelease
    have hEcho : t.echo s .step = s := by
      simp only [echo, hAgenda]
    rw [hEcho]
    exact echoes_release hAgenda hMirrors hLate
  by_cases hOpens :
      ∃ attempt e,
        task = .act (.report attempt (.event e)) ∧
          t.isOpenedBy attempt = true
  · rcases hOpens with ⟨attempt, e, rfl, hOpens⟩
    have hEcho :
        t.echo s .step = { s with attempt := attempt } := by
      simp only [echo, hAgenda]
    rw [hEcho, flatTask, if_pos hOpens]
    exact echoes_opening hOrderly hAgenda hOpens hMirrors hLate
  · have hPlain :
        ∀ attempt e,
          task = .act (.report attempt (.event e)) →
            t.isOpenedBy attempt = false := by
      intro attempt e hEvent
      rw [Bool.eq_false_iff]
      intro hHere
      exact hOpens ⟨attempt, e, hEvent, hHere⟩
    have hEcho :
        ∃ attempt,
          t.echo s .step = { s with attempt := attempt } := by
      simp only [echo, hAgenda]
      split
      · exact ⟨_, rfl⟩
      · next hHead =>
          rw [List.cons.injEq] at hHead
          rw [hHead.1] at hRoot
          contradiction
      · exact ⟨s.attempt, rfl⟩
    rcases hEcho with ⟨attempt, hEcho⟩
    rw [hEcho]
    exact
      echoes_root hOrderly hAgenda hRoot hRelease hAlive hPlain
        hMirrors hLate attempt

/- Whether the entry has no part in a flat run. -/
def isUnseen : Task → Bool
  | .note _ => true
  | .leave _ _ => true
  | .owe (.call _) => true
  | .owe .countPing => true
  | _ => false

theorem flatMove_of_isUnseen
    (s : Echo)
    (hAgenda : t.agenda = task :: rest)
    (hUnseen : isUnseen task = true) :
    t.flatMove s .step = [] ∧
      t.echo s .step = s ∧
      t.verdict .step = [] := by
  simp only [flatMove, echo, verdict, hAgenda]
  cases task with
  | owe d =>
      cases d <;>
        first | contradiction | exact ⟨rfl, rfl, rfl⟩
  | _ => first | contradiction | exact ⟨rfl, rfl, rfl⟩

/- Every entry that is seen to is mirrored. -/
theorem echoes_step
    (hOrderly : t.Orderly)
    (hOpened :
      ∀ generation e,
        .owe (.deliver generation e) ∈ t.agenda →
          t.client.link.isLive generation = true →
            t.client.link.phase = .opened)
    (hEchoes : t.Echoes s t') :
    t.step.Echoes (t.echo s .step)
        (t'.follow (t.flatMove s .step)) ∧
      t'.verdicts (t.flatMove s .step) = t.verdict .step := by
  rcases hEchoes with
    ⟨above, root, pings, hAgenda, hNested, hRooted, hMirrors⟩
  cases above with
  -- no handler is running, so what is below is seen to
  | nil =>
      rw [List.nil_append] at hAgenda
      cases hRooted with
      | idle hLate =>
          simp only [echo, flatMove, verdict, hAgenda]
          rw [step_idle hAgenda]
          exact ⟨echoes_of_idle hMirrors hAgenda hLate, rfl⟩
      | root task hRoot hAlive hLate =>
          have hFlat :
              t.flatMove s .step = t.flatTask s task := by
            simp only [flatMove, hAgenda]
          rw [hFlat]
          exact
            echoes_start hOrderly hAgenda hRoot hAlive hMirrors
              hLate
      | delivery generation e hAlive hBegun hWatch =>
          have hFlat :
              t.flatMove s .step =
                t.flatTask s (.owe (.deliver generation e)) := by
            simp only [flatMove, hAgenda]
          have hMember :
              .owe (.deliver generation e) ∈ t.agenda := by
            rw [hAgenda]
            exact List.mem_singleton_self _
          rw [hFlat]
          exact
            echoes_delivery hOrderly hAgenda
              (hOpened generation e hMember) hAlive hBegun hWatch
              hMirrors
      | ping hLate =>
          rcases flatMove_of_isUnseen s hAgenda rfl with
            ⟨hFlat, hEcho, hNone⟩
          rw [hFlat, hEcho, hNone]
          exact ⟨echoes_ping hAgenda hMirrors hLate, rfl⟩
  -- a handler is running, and does what comes next
  | cons task above =>
      rw [List.cons_append] at hAgenda
      rw [List.forall_mem_cons] at hNested
      rcases hNested with ⟨hFirst, hNested⟩
      cases task with
      | act a =>
          have hStep :=
            echoes_switch hOrderly hFirst hAgenda hNested hRooted
              hMirrors
          simp only [echo, flatMove, hAgenda]
          cases a <;> first | exact hStep | contradiction
      | note a =>
          have hReturn :=
            echoes_return hOrderly (Or.inl ⟨a, rfl⟩) hAgenda
              hNested hRooted hMirrors
          rcases flatMove_of_isUnseen s hAgenda rfl with
            ⟨hFlat, hEcho, hNone⟩
          rw [hFlat, hEcho, hNone]
          exact ⟨hReturn, rfl⟩
      | leave slot answers =>
          have hReturn :=
            echoes_return hOrderly
              (Or.inr ⟨slot, answers, rfl⟩)
              hAgenda hNested hRooted hMirrors
          rcases flatMove_of_isUnseen s hAgenda rfl with
            ⟨hFlat, hEcho, hNone⟩
          rw [hFlat, hEcho, hNone]
          exact ⟨hReturn, rfl⟩
      | owe d =>
          cases d with
          | call c =>
              have hHanded :=
                echoes_call hOrderly hAgenda hNested hRooted
                  hMirrors
              rcases flatMove_of_isUnseen s hAgenda rfl with
                ⟨hFlat, hEcho, hNone⟩
              rw [hFlat, hEcho, hNone]
              exact ⟨hHanded, rfl⟩
          | _ => contradiction
      | _ => contradiction

------------------------------------------------------------
-- Moves
------------------------------------------------------------

/- An entry that waits is none of a flat run yet. -/
theorem Mirrors.put
    (hMirrors : t.Mirrors s pings t')
    (hCall : task.isCall = false) :
    Turn.Mirrors s pings
      { t with agenda := task :: t.agenda } t' := by
  apply hMirrors.aside
  · rfl
  · rfl
  · rfl
  · rfl
  · exact hMirrors.client
  · have hSame :
        Turn.hearings { t with agenda := task :: t.agenda } =
          t.hearings := by
      rfl
    rw [hSame]
    simp [owedHearings, heard?_of_isCall _ hCall]

theorem echoes_put
    (hTask :
      task.isNested = true ∨
        (t.agenda = [] ∧ task.isRoot = true ∧
          ((∀ a, task ≠ .act a) → t.alive = true)))
    (hCall : task.isCall = false)
    (hEchoes : t.Echoes s t') :
    (t.put task).Echoes s t' := by
  unfold put
  by_cases hFree : t.isFree = true
  · rw [if_pos hFree]
    rcases hTask with hFirst | ⟨hIdle, hRoot, hAlive⟩
    · rcases hEchoes with
        ⟨above, root, pings, hAgenda, hNested, hRooted,
          hMirrors⟩
      refine
        ⟨task :: above, root, pings, ?_, ?_, ?_,
          hMirrors.put hCall⟩
      · rw [hAgenda]
        rfl
      · rw [List.forall_mem_cons]
        exact ⟨hFirst, hNested⟩
      · exact hRooted.keep rfl rfl rfl (Or.inl rfl)
    · rcases hEchoes.of_idle hIdle with ⟨hLate, hMirrors⟩
      refine
        ⟨[], [task], 0, ?_, by simp, ?_, hMirrors.put hCall⟩
      · rw [hIdle]
        rfl
      · exact .root task hRoot hAlive hLate
  · rw [if_neg hFree]
    exact hEchoes

/- No call of a handler is an event on its way. -/
theorem isDelivering_of_rooted
    (hAgenda : t.agenda = above ++ root)
    (hNested : ∀ task ∈ above, task.isNested = true) :
    t.isDelivering = isDelivering { t with agenda := root } := by
  have hNone : above.any Task.isDelivery = false := by
    rw [List.any_eq_false]
    intro task hMember
    have hTask := hNested task hMember
    cases task with
    | owe d =>
        cases d <;>
          first | contradiction | simp [Task.isDelivery]
    | _ => simp [Task.isDelivery]
  unfold isDelivering
  rw [hAgenda, List.any_append, hNone, Bool.false_or]

/- Only while an event is on its way is time kept back. -/
theorem Rooted.later
    {now : Time}
    (hRooted : Rooted s t now root pings) :
    (isDelivering { t with agenda := root } = true ∧
        ∀ s₁ : Echo, s₁.attempt = s.attempt →
          Rooted s₁ t now root pings) ∨
      (isDelivering { t with agenda := root } = false ∧
        s.late = 0 ∧
        ∀ later, Rooted s t later root pings) := by
  cases hRooted with
  | idle hLate =>
      exact Or.inr ⟨rfl, hLate, fun _ => .idle hLate⟩
  | root task hRoot hAlive hLate =>
      refine Or.inr ⟨?_, hLate, ?_⟩
      · cases task <;> first | rfl | contradiction
      · exact fun _ => .root task hRoot hAlive hLate
  | delivery generation e hAlive hBegun hWatch =>
      refine Or.inl ⟨rfl, ?_⟩
      intro s₁ hAttempt
      apply Rooted.delivery _ _ hAlive _ hWatch
      rw [hAttempt]
      exact hBegun
  | ping hLate =>
      exact Or.inr ⟨rfl, hLate, fun _ => .ping hLate⟩

/- Time passes on both sides, if only at the end of the way. -/
theorem echoes_wait
    (span : Span)
    (hEchoes : t.Echoes s t') :
    (t.move (.wait span)).Echoes (t.echo s (.wait span))
      (t'.follow (t.flatMove s (.wait span))) := by
  rcases hEchoes with
    ⟨above, root, pings, hAgenda, hNested, hRooted, hMirrors⟩
  have hWay := isDelivering_of_rooted hAgenda hNested
  have hNow := hMirrors.now
  simp only [echo, flatMove]
  rcases hRooted.later with
    ⟨hOn, hSince⟩ | ⟨hOff, hLate, hSince⟩
  · rw [if_pos (hWay.trans hOn), if_pos (hWay.trans hOn)]
    refine ⟨above, root, pings, hAgenda, hNested, ?_, ?_⟩
    · exact
        (hSince
          { s with late := s.late + span, slipped := true }
          rfl).keep rfl rfl rfl (Or.inl rfl)
    · refine
        { hMirrors with
          now := ?_
          punctual := Bool.noConfusion
          client := hMirrors.client.slip }
      show t'.now + (s.late + span) = t.now + span
      rw [← hNow, Nat.add_assoc]
  · have hStill : ¬ t.isDelivering = true := by
      rw [hWay, hOff]
      exact Bool.false_ne_true
    rw [if_neg hStill, if_neg hStill]
    refine ⟨above, root, pings, hAgenda, hNested, ?_, ?_⟩
    · exact (hSince _).keep rfl rfl rfl (Or.inl rfl)
    · refine { hMirrors with now := ?_ }
      show t'.now + span + s.late = t.now + span
      rw [← hNow, Nat.add_right_comm]

/- An attempt that begins leaves what others have begun. -/
theorem Rooted.begin
    {now : Time}
    (hRooted : Rooted s t now root pings)
    (generation : UInt64)
    (seen : List Observation) :
    Rooted s
      { t with
        begun := t.begun.push generation
        seen := seen }
      now root pings := by
  cases hRooted with
  | idle hLate => exact .idle hLate
  | root task hRoot hAlive hLate =>
      exact .root task hRoot hAlive hLate
  | delivery number e hAlive hBegun hWatch =>
      refine .delivery number e hAlive ?_ hWatch
      have hBelow : s.attempt < t.begun.size :=
        (Array.getElem?_eq_some_iff.mp hBegun).1
      rw [Array.getElem?_push_lt hBelow,
        ← Array.getElem?_eq_getElem hBelow]
      exact hBegun
  | ping hLate => exact .ping hLate

/- The same attempt begins on both sides. -/
theorem echoes_begin
    (hEchoes : t.Echoes s t') :
    t.beginAttempt.Echoes s t'.beginAttempt := by
  rcases hEchoes with
    ⟨above, root, pings, hAgenda, hNested, hRooted, hMirrors⟩
  have hTransport := hMirrors.client.link.2.1
  cases hHeld : t.client.link.transport with
  | none =>
      simp only [beginAttempt, hTransport, hHeld]
      exact
        ⟨above, root, pings, hAgenda, hNested, hRooted,
          hMirrors⟩
  | some generation =>
      simp only [beginAttempt, hTransport, hHeld, hMirrors.alive]
      by_cases hAlive : t.alive = true
      · rw [if_pos hAlive, if_pos hAlive]
        refine ⟨above, root, pings, hAgenda, hNested, ?_, ?_⟩
        · exact hRooted.begin generation _
        · refine
            { hMirrors with
              begun := ?_
              alive := rfl
              hearings := ?_
              passive := ?_ }
          · rw [hMirrors.begun]
          · refine (hearings_of_cons rfl rfl).trans ?_
            rw [hMirrors.hearings]
            congr 1
            exact (hearings_of_cons rfl rfl).symm
          · intro a answer
            simp [hMirrors.passive]
      · rw [if_neg hAlive, if_neg hAlive]
        exact
          ⟨above, root, pings, hAgenda, hNested, hRooted,
            hMirrors⟩

/- A client ends on both sides, if nothing is under way. -/
theorem echoes_drop
    (hEchoes : t.Echoes s t') :
    (t.move .drop).Echoes s
      (t'.follow (t.flatMove s .drop)) := by
  by_cases hIdle : t.agenda = []
  · have hFlat : t.flatMove s .drop = [.drop] := by
      simp [flatMove, hIdle]
    rw [hFlat, follow_cons, follow_nil]
    rcases hEchoes.of_idle hIdle with ⟨hLate, hMirrors⟩
    by_cases hHeld : t.held = true
    · have hSame : t.move .drop = t := by
        simp [move, hHeld]
      have hSame' : t'.move .drop = t' := by
        simp [move, hHeld, hMirrors.held]
      rw [hSame, hSame']
      exact hEchoes
    · have hEnd : t.move .drop = { t with alive := false } := by
        simp [move, hHeld, hIdle]
      have hEnd' :
          t'.move .drop = { t' with alive := false } := by
        simp [move, hHeld, hMirrors.held, hMirrors.idle]
      rw [hEnd, hEnd']
      refine echoes_of_idle ?_ hIdle hLate
      exact { hMirrors with alive := rfl }
  · have hFlat : t.flatMove s .drop = [] := by
      simp [flatMove, hIdle]
    have hSame : t.move .drop = t := by
      simp [move, hIdle]
    rw [hFlat, hSame]
    exact hEchoes

/- Every move of a run is mirrored by moves of a flat run. -/
theorem echoes_move
    (hOrderly : t.Orderly)
    (hOpened :
      ∀ generation e,
        .owe (.deliver generation e) ∈ t.agenda →
          t.client.link.isLive generation = true →
            t.client.link.phase = .opened)
    (m : Move)
    (hAdmits : t.admits m = true)
    (hEchoes : t.Echoes s t') :
    (t.move m).Echoes (t.echo s m)
        (t'.follow (t.flatMove s m)) ∧
      t'.verdicts (t.flatMove s m) = t.verdict m := by
  cases m with
  | step => exact echoes_step hOrderly hOpened hEchoes
  | act a =>
      refine ⟨?_, rfl⟩
      apply echoes_put _ rfl hEchoes
      rw [admits, Bool.or_eq_true, Bool.and_eq_true,
        List.isEmpty_iff] at hAdmits
      rcases hAdmits with hSwitch | ⟨hIdle, hPlain⟩
      · exact Or.inl hSwitch
      · refine Or.inr ⟨hIdle, hPlain, ?_⟩
        intro hOther
        exact absurd rfl (hOther a)
  | timer generation =>
      refine ⟨?_, rfl⟩
      simp only [move]
      split
      · next hAlive =>
          apply echoes_put _ rfl hEchoes
          refine Or.inr ⟨?_, rfl, fun _ => hAlive⟩
          exact List.isEmpty_iff.mp hAdmits
      · exact hEchoes
  | alarm generation token =>
      refine ⟨?_, rfl⟩
      simp only [move]
      split
      · next hAlive =>
          apply echoes_put _ rfl hEchoes
          refine Or.inr ⟨?_, rfl, fun _ => hAlive⟩
          exact List.isEmpty_iff.mp hAdmits
      · exact hEchoes
  | wait span =>
      refine ⟨echoes_wait span hEchoes, ?_⟩
      simp only [flatMove]
      split <;> rfl
  | begin => exact ⟨echoes_begin hEchoes, rfl⟩
  | drop =>
      refine ⟨echoes_drop hEchoes, ?_⟩
      simp only [flatMove]
      split <;> rfl

------------------------------------------------------------
-- Runs
------------------------------------------------------------

/- A run is followed by its flat run, move by move. -/
theorem Echoes.follow
    {config : Config}
    (hOrderly : t.Orderly)
    (hGoverned : t.Governed config)
    (moves : List Move)
    (hAdmits : t.admitsAll moves = true)
    (hTeardowns : (t.follow moves).teardowns < UInt64.size)
    (hEchoes : t.Echoes s t') :
    (t.follow moves).Echoes (t.echoAll s moves)
        (t'.follow (t.flatten s moves)) ∧
      t'.verdicts (t.flatten s moves) = t.verdicts moves := by
  induction moves generalizing t t' s with
  | nil => exact ⟨hEchoes, rfl⟩
  | cons m moves ih =>
      rw [admitsAll, Bool.and_eq_true] at hAdmits
      rw [follow_cons] at hTeardowns
      have hTeardownsNow : t.teardowns < UInt64.size := by
        have hLe :
            t.teardowns ≤ (t.follow (m :: moves)).teardowns :=
          countP_milestones_le_follow hOrderly
            Remark.isTeardown (m :: moves)
        exact Nat.lt_of_le_of_lt hLe hTeardowns
      -- what is live dates from the last teardown, and since
      -- then the event on its way has opened the connection
      have hOpened :
          ∀ generation e,
            .owe (.deliver generation e) ∈ t.agenda →
              t.client.link.isLive generation = true →
                t.client.link.phase = .opened := by
        intro generation e hMember hLive
        apply (hGoverned.dated.delivery generation e hMember).2
        apply hGoverned.dated.toNat_eq hTeardownsNow
        simp only [Link.isLive, Bool.and_eq_true,
          beq_iff_eq] at hLive
        exact hLive.1.symm
      rcases echoes_move hOrderly hOpened m hAdmits.1 hEchoes with
        ⟨hNext, hVerdict⟩
      rcases
        ih (orderly_move hOrderly m)
          (hGoverned.follow hOrderly [m]) hAdmits.2 hTeardowns
          hNext with
        ⟨hLast, hVerdicts⟩
      rw [flatten, echoAll, verdicts, verdicts_append, hVerdict,
        hVerdicts, follow_cons, follow_append]
      exact ⟨hLast, rfl⟩

theorem mirrors_fresh (config : Config) :
    (fresh config).Mirrors .start 0 (fresh config) := by
  constructor
  · rfl
  · exact fun _ => rfl
  · rfl
  · rfl
  · rfl
  · constructor
    · rfl
    · intro slot
      cases slot <;> rfl
    · intro slot handler hGet
      cases slot <;> contradiction
  · rfl
  · rfl
  · exact fun _ _ => List.not_mem_nil

------------------------------------------------------------
-- Calls from Handlers Act as if Made Right After
------------------------------------------------------------

/- What is done from outside, if it is no timer. -/
def Move.action? : Move → Option Action
  | .act a => some a
  | _ => none

/-
  Two turns that have come to the same end.  The client is in
  the same state, to the deadlines of its timer and its watch;
  only the number of the alarm may differ, and the instant at
  which the current attempt was started.
-/
structure Matches (t t' : Turn) : Prop where
  hearings : t'.hearings = t.hearings
  now : t'.now = t.now
  begun : t'.begun = t.begun
  alive : t'.alive = t.alive
  held : t'.held = t.held
  config : t'.client.config = t.client.config
  link :
    { t'.client.link with
        keepalive :=
          { t'.client.link.keepalive with
            token := t.client.link.keepalive.token }
        startedAt := t.client.link.startedAt } =
      t.client.link
  tally : t'.client.tally = t.client.tally
  registered :
    ∀ slot,
      t'.client.handlers.isRegistered slot =
        t.client.handlers.isRegistered slot
  idle : t'.agenda = []

/- Nothing is left to do, so both have come to the same end. -/
theorem Mirrors.matches
    (hMirrors : t.Mirrors s 0 t')
    (hLate : s.late = 0)
    (hIdle : t.agenda = []) :
    t.Matches t' ∧
      (s.slipped = false →
        t'.client.link.startedAt = t.client.link.startedAt) := by
  have hClient := hMirrors.client
  have hNone : t.owedHearings = [] := by
    unfold owedHearings
    rw [hIdle]
    rfl
  refine ⟨?_, ?_⟩
  · constructor
    · rw [hMirrors.hearings, hNone, List.append_nil]
    · exact hMirrors.now_of_late hLate
    · exact hMirrors.begun
    · exact hMirrors.alive
    · exact hMirrors.held
    · rw [hClient.client]
      rfl
    · rw [hClient.client]
      rfl
    · rw [hClient.client]
      simp [Client.guise, Tally.guise, Client.mask]
    · intro slot
      unfold Registry.isRegistered
      rw [hClient.listening, Option.isSome_map]
    · exact hMirrors.idle
  · intro hSlipped
    rw [hClient.client, hSlipped]
    rfl

/-
  In a run whose handlers connect and disconnect, to any depth,
  what they do acts as if it were done right after the
  operation that called them.  The flat run, in which an event
  that opens the connection is an opening and then an event,
  and whose handlers only listen, makes the same calls in the
  same order, answers every connect alike and comes to the
  same end.
-/
theorem flattened_follow
    (config : Config)
    (moves : List Move)
    (hAdmits : (fresh config).admitsAll moves = true)
    (hIdle : ((fresh config).follow moves).agenda = [])
    (hTeardowns :
      ((fresh config).follow moves).teardowns < UInt64.size) :
    let t := (fresh config).follow moves
    let flat := (fresh config).flatten .start moves
    let t' := (fresh config).follow flat
    (∀ slot reactions,
        .act (.register slot reactions) ∈ flat →
          reactions = Handler.listener) ∧
      (∀ a answer, .did a answer ∉ t'.seen) ∧
      t.Matches t' ∧
      (fresh config).verdicts flat =
        (fresh config).verdicts moves ∧
      (((fresh config).echoAll .start moves).slipped = false →
        t'.client.link.startedAt = t.client.link.startedAt) := by
  have hStart :
      (fresh config).Echoes .start (fresh config) :=
    echoes_of_idle (mirrors_fresh config) rfl rfl
  rcases
    hStart.follow (orderly_fresh config) (governed_fresh config)
      moves hAdmits hTeardowns with
    ⟨hEnd, hVerdicts⟩
  rcases hEnd.of_idle hIdle with ⟨hLate, hMirrors⟩
  rcases hMirrors.matches hLate hIdle with
    ⟨hMatches, hStarted⟩
  intro t flat t'
  refine ⟨?_, hMirrors.passive, hMatches, hVerdicts, hStarted⟩
  intro slot reactions hMember
  exact listener_of_mem_flatten hMember

/-
  The handler of the opening disconnects and connects, and the
  one of the disconnect connects before.  So the event that
  opened the connection is out of date when it is delivered,
  and the inner connect is refused.  The next attempt opens
  with an event as well.
-/
theorem flattened_follow_twice_nested :
    ∃ (moves flat : List Move) (t t' : Turn),
      t = (fresh default).follow moves ∧
        t' = (fresh default).follow flat ∧
        t.begun = #[1, 3] ∧
        t.hearings.map (fun call => call.1.slot) =
          [.opened, .closed, .opened, .message] ∧
        (fresh default).verdicts flat =
          [.accepted, .accepted,
            .refused
              (.invalidState
                "connect() called while connecting")] ∧
        flat.filterMap Move.action? =
          [.register .opened [], .register .closed [], .connect,
            .report 0 .opened, .disconnect, .connect, .connect,
            .report 0 (.event default), .report 1 .opened,
            .report 1 (.event default)] ∧
        t.Matches t' ∧
        t'.client.link.startedAt = t.client.link.startedAt := by
  have hFlat :=
    flattened_follow default
      [.act (.register .opened [[.disconnect, .connect]]),
        .step,
        .act (.register .closed [[.connect]]), .step,
        .act .connect, .step, .begin, .wait 20,
        .act (.report 0 (.event default)), .step, .step, .step,
        .step, .step, .step, .step, .step, .step, .step, .step,
        .step, .begin, .wait 10,
        .act (.report 1 (.event default)), .step, .step, .step,
        .step, .step]
      (by decide +kernel) (by decide +kernel) (by decide +kernel)
  refine
    ⟨_, _, _, _, rfl, rfl, ?_, ?_, ?_, ?_, hFlat.2.2.1, ?_⟩
  · decide +kernel
  · decide +kernel
  · rfl
  · rfl
  · exact hFlat.2.2.2.2 (by decide +kernel)

end Turn

end EventFeed
