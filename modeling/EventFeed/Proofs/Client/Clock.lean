import EventFeed.Proofs.Client.Supervision

/-
  This file defines timed runs: runs in which every timer
  goes off exactly when it is due.

  Work takes no time.  Time passes only while nothing is left
  to do, and never beyond a deadline that is still pending;
  and a timer that counts goes off at its deadline.  What a
  run shows is dated by the instants at which it shows.

  Key definitions include:
    * `Link.deadlines`
    * `lastSign?`
    * `Turn.isPunctual`
    * `Turn.isTimely`
    * `Turn.timely`
    * `Turn.chronicle`
    * `Turn.Passage`

  Key results include:
    * `Turn.momentary_run`
    * `Turn.passage_move`
    * `Turn.timed_induction`
    * `Turn.kept_or_ended`
    * `Turn.punctual_follow`
-/

------------------------------------------------------------
-- Work Takes No Time
------------------------------------------------------------

namespace EventFeed

namespace Turn

/-
  No time passed, and the client did not end; a handle on it
  may have been given up.
-/
structure Momentary (t t' : Turn) : Prop where
  now : t'.now = t.now
  alive : t'.alive = t.alive
  held : t'.held = true → t.held = true

variable (t : Turn)

theorem momentary_unwind : t.Momentary t.unwind := by
  unfold unwind
  split <;> exact ⟨rfl, rfl, id⟩

theorem momentary_act (a : Action) : t.Momentary (t.act a) := by
  cases a with
  | connect =>
      simp only [act, ifHeld]
      split
      · split <;> exact ⟨rfl, rfl, id⟩
      · exact ⟨rfl, rfl, id⟩
  | report attempt r =>
      simp only [act, withAttempt]
      split
      · split <;> exact ⟨rfl, rfl, id⟩
      · exact ⟨rfl, rfl, id⟩
  | ask q =>
      rcases answer_eq t q with ⟨answers, hAnswer⟩
      rw [act, hAnswer]
      exact ⟨rfl, rfl, id⟩
  | panic => exact t.momentary_unwind
  | disconnect =>
      simp only [act, ifHeld]
      split <;> exact ⟨rfl, rfl, id⟩
  | register slot reactions =>
      simp only [act, ifHeld]
      split <;> exact ⟨rfl, rfl, id⟩
  | unregister slot =>
      simp only [act, ifHeld]
      split <;> exact ⟨rfl, rfl, id⟩
  | release =>
      refine ⟨rfl, rfl, ?_⟩
      intro hHeld
      exact absurd hHeld Bool.false_ne_true
  | batch actions => exact ⟨rfl, rfl, id⟩
  | idle => exact ⟨rfl, rfl, id⟩

theorem momentary_run (task : Task) :
    t.Momentary (t.run task) := by
  cases task with
  | act a => exact t.momentary_act a
  | owe d =>
      cases d with
      | call c =>
          simp only [run, handCall]
          split <;> exact ⟨rfl, rfl, id⟩
      | _ => exact ⟨rfl, rfl, id⟩
  | _ => exact ⟨rfl, rfl, id⟩

theorem momentary_step : t.Momentary t.step := by
  unfold step
  split
  · exact ⟨rfl, rfl, id⟩
  · next task rest hAgenda =>
      have hRun :=
        momentary_run { t with agenda := rest } task
      exact ⟨hRun.now, hRun.alive, hRun.held⟩

end Turn

end EventFeed

------------------------------------------------------------
-- Timed Moves
------------------------------------------------------------

namespace EventFeed

/- The instants at which timers of the link are due. -/
def Link.deadlines (l : Link) : List Time :=
  l.keepalive.due?.toList ++ l.timer.toList.map (·.due)

/- The latest of the signs with a property, and its instant. -/
def lastSign?
    (p : Sign → Bool)
    (past : List (Time × Sign)) : Option (Time × Sign) :=
  past.reverse.find? (p ·.2)

/- Signs of one instant are the latest if there are any. -/
theorem lastSign?_append
    (p : Sign → Bool)
    (past : List (Time × Sign))
    (now : Time)
    (signs : List Sign) :
    lastSign? p (past ++ signs.map (now, ·)) =
      ((signs.reverse.find? p).map (now, ·)).or
        (lastSign? p past) := by
  have hFind :
      (signs.map (now, ·)).reverse.find? (p ·.2) =
        (signs.reverse.find? p).map (now, ·) := by
    rw [← List.map_reverse, List.find?_map]
    rfl
  rw [lastSign?, List.reverse_append, List.find?_append, hFind]
  rfl

namespace Turn

/- Whether the entry, if it is a timer that counts, is due. -/
def isPunctual (t : Turn) (task : Task) : Bool :=
  match task with
  | .fireTimer generation =>
      !t.client.isResumedBy generation ||
        t.client.link.timer.map (·.due) == some t.now
  | .fireAlarm _ _ =>
      !t.client.isFailedBy t.begun task ||
        t.client.link.keepalive.due? == some t.now
  | _ => true

/-
  Whether a move keeps to the clock: no time passes while
  there is work, nor beyond what is due.
-/
def isTimely (t : Turn) : Move → Bool
  | .wait span =>
      t.agenda.isEmpty &&
        (!t.alive ||
          t.client.link.deadlines.all fun due =>
            decide (t.now + span ≤ due))
  | .step =>
      match t.agenda with
      | task :: _ => t.isPunctual task
      | [] => true
  | _ => true

/- Whether a run keeps to the clock. -/
def timely (t : Turn) : List Move → Bool
  | [] => true
  | m :: moves => t.isTimely m && (t.move m).timely moves

/- The signs that a move adds to a story. -/
def news (t : Turn) (m : Move) : List Sign :=
  (t.move m).story.drop t.story.length

/- The signs of a run with the instants at which they show. -/
def chronicle (t : Turn) : List Move → List (Time × Sign)
  | [] => []
  | m :: moves =>
      (t.news m).map (t.now, ·) ++ (t.move m).chronicle moves

variable {t : Turn}

------------------------------------------------------------
-- Passage of Time
------------------------------------------------------------

/- How a move that keeps to the clock goes. -/
inductive Passage (t : Turn) : Move → Turn → Prop
  /- time passes -/
  | wait
      (span : Span)
      (hIdle : t.agenda = [])
      (hDue :
        t.alive = true →
          ∀ due ∈ t.client.link.deadlines, t.now + span ≤ due) :
      Passage t (.wait span) { t with now := t.now + span }
  /- nothing happens to the connection -/
  | still
      {m : Move}
      {t' : Turn}
      (hStill : t.Still t')
      (hNow : t'.now = t.now)
      (hAlive : t'.alive = true → t.alive = true) :
      Passage t m t'
  /- an operation has its effect -/
  | acted
      {t' : Turn}
      (task : Task)
      (o : Outcome)
      (hActed : t.Acted task o t')
      (hNow : t'.now = t.now)
      (hAlive : t'.alive = t.alive)
      (hPunctual : t.isPunctual task = true) :
      Passage t .step t'

theorem passage_step
    (hOrderly : t.Orderly)
    (hTimely : t.isTimely .step = true) :
    t.Passage .step t.step := by
  have hMoment := t.momentary_step
  rcases still_or_acted hOrderly (t.change_move .step) with
    hStill | ⟨task, o, hActed⟩
  · exact
      .still hStill hMoment.now fun hAlive =>
        hMoment.alive ▸ hAlive
  · rcases hActed.first with ⟨rest, hAgenda⟩
    simp only [isTimely, hAgenda] at hTimely
    exact
      .acted task o hActed hMoment.now hMoment.alive hTimely

theorem now_put (t : Turn) (task : Task) :
    (t.put task).now = t.now ∧
      (t.put task).alive = t.alive := by
  unfold put
  split <;> exact ⟨rfl, rfl⟩

/- Every move that keeps to the clock is one of these. -/
theorem passage_move
    (hOrderly : t.Orderly)
    {m : Move}
    (hTimely : t.isTimely m = true) :
    t.Passage m (t.move m) := by
  -- only a wait takes time, and only a drop ends the client
  have hStill :
      m ≠ .step → (t.move m).now = t.now →
        ((t.move m).alive = true → t.alive = true) →
          t.Passage m (t.move m) :=
    fun hOther hNow hAlive =>
      .still (still_move hOrderly hOther) hNow hAlive
  cases m with
  | step => exact passage_step hOrderly hTimely
  | wait span =>
      simp only [isTimely, Bool.and_eq_true, List.isEmpty_iff,
        Bool.or_eq_true, Bool.not_eq_true', List.all_eq_true,
        decide_eq_true_eq] at hTimely
      rcases hTimely with ⟨hIdle, hDue⟩
      refine .wait span hIdle fun hAlive => ?_
      exact hDue.resolve_left (by simp [hAlive])
  | act a =>
      have hPut := now_put t (.act a)
      exact hStill (by simp) hPut.1 (hPut.2 ▸ id)
  | timer generation =>
      have hPut := now_put t (.fireTimer generation)
      refine hStill (by simp) ?_ ?_ <;> simp only [move] <;>
        split
      · exact hPut.1
      · rfl
      · exact hPut.2 ▸ id
      · exact id
  | alarm generation token =>
      have hPut := now_put t (.fireAlarm generation token)
      refine hStill (by simp) ?_ ?_ <;> simp only [move] <;>
        split
      · exact hPut.1
      · rfl
      · exact hPut.2 ▸ id
      · exact id
  | begin =>
      refine hStill (by simp) ?_ ?_ <;>
        simp only [move, beginAttempt] <;> split
      · split <;> rfl
      · rfl
      · split <;> exact id
      · exact id
  | drop =>
      refine hStill (by simp) ?_ ?_ <;> simp only [move] <;>
        split
      · rfl
      · rfl
      · intro hAlive
        exact absurd hAlive Bool.false_ne_true
      · exact id

------------------------------------------------------------
-- Timed Runs
------------------------------------------------------------

theorem news_wait (t : Turn) (span : Span) :
    t.news (.wait span) = [] :=
  List.drop_length

theorem news_of_still
    {m : Move}
    (hStill : t.Still (t.move m)) :
    t.news m = [] := by
  rw [news, hStill.story, List.drop_length]

/- What is added to a story is what an operation shows. -/
theorem news_of_acted
    {m : Move}
    {task : Task}
    {o : Outcome}
    (hActed : t.Acted task o (t.move m)) :
    t.news m = o.signs := by
  rw [news, hActed.story, List.drop_left]

/-
  What holds of a run and its chronicle up to a point goes on
  to hold if nothing that keeps to the clock ends it.
-/
theorem timed_induction
    {P : List (Time × Sign) → Turn → Prop}
    (hWait :
      ∀ past t span, P past t → t.agenda = [] →
        (t.alive = true →
          ∀ due ∈ t.client.link.deadlines,
            t.now + span ≤ due) →
          P past { t with now := t.now + span })
    (hStill :
      ∀ past t t', P past t → t.Still t' → t'.now = t.now →
        (t'.alive = true → t.alive = true) → P past t')
    (hActed :
      ∀ past t t' task o, P past t → t.Acted task o t' →
        t'.now = t.now → t'.alive = t.alive →
          t.isPunctual task = true →
            P (past ++ o.signs.map (t.now, ·)) t')
    (hOrderly : t.Orderly)
    (past : List (Time × Sign))
    (hStart : P past t)
    (moves : List Move)
    (hTimely : t.timely moves = true) :
    P (past ++ t.chronicle moves) (t.follow moves) := by
  induction moves generalizing t past with
  | nil =>
      rw [chronicle, List.append_nil]
      exact hStart
  | cons m moves ih =>
      rw [timely, Bool.and_eq_true] at hTimely
      have hNext :
          P (past ++ (t.news m).map (t.now, ·)) (t.move m) := by
        cases passage_move hOrderly hTimely.1 with
        | wait span hIdle hDue =>
            rw [news_wait, List.map_nil, List.append_nil]
            exact hWait past t span hStart hIdle hDue
        | still hSame hNow hAlive =>
            rw [news_of_still hSame, List.map_nil,
              List.append_nil]
            exact hStill past t _ hStart hSame hNow hAlive
        | acted task o hDone hNow hAlive hPunctual =>
            rw [news_of_acted (m := .step) hDone]
            exact
              hActed past t _ task o hStart hDone hNow hAlive
                hPunctual
      rw [chronicle, ← List.append_assoc, follow_cons]
      exact ih (orderly_move hOrderly m) _ hNext hTimely.2

/-
  What a move keeps unless it ends it in some way holds until
  the first move that does so.
-/
theorem kept_or_ended
    {config : Config}
    {P : List (Time × Sign) → Turn → Prop}
    {E : Turn → Move → Prop}
    (hMove :
      ∀ past t m, t.Orderly → t.Governed config → P past t →
        t.isTimely m = true →
          P (past ++ (t.news m).map (t.now, ·)) (t.move m) ∨
            E t m)
    (hOrderly : t.Orderly)
    (hGoverned : t.Governed config)
    (past : List (Time × Sign))
    (hStart : P past t)
    (moves : List Move)
    (hTimely : t.timely moves = true) :
    P (past ++ t.chronicle moves) (t.follow moves) ∨
      ∃ before m after,
        moves = before ++ m :: after ∧
          P (past ++ t.chronicle before) (t.follow before) ∧
          E (t.follow before) m := by
  induction moves generalizing t past with
  | nil =>
      rw [chronicle, List.append_nil]
      exact Or.inl hStart
  | cons m moves ih =>
      rw [timely, Bool.and_eq_true] at hTimely
      rcases hMove past t m hOrderly hGoverned hStart hTimely.1
        with hNext | hEnded
      · rw [chronicle, ← List.append_assoc]
        rcases ih (orderly_move hOrderly m)
            (hGoverned.follow hOrderly [m]) _ hNext hTimely.2
          with
          hLater | ⟨before, other, after, rfl, hUntil, hEnded⟩
        · exact Or.inl hLater
        · refine
            Or.inr ⟨m :: before, other, after, rfl, ?_, hEnded⟩
          rw [chronicle, ← List.append_assoc]
          exact hUntil
      · refine Or.inr ⟨[], m, moves, rfl, ?_, hEnded⟩
        rw [chronicle, List.append_nil]
        exact hStart

end Turn

end EventFeed

------------------------------------------------------------
-- Deadlines
------------------------------------------------------------

namespace EventFeed

namespace Effect

variable {now : Time}
variable {begun : Array UInt64}
variable {c : Client}
variable {task : Task}
variable {o : Outcome}

/- The window of the watch is never changed. -/
theorem window_eq
    (hEffect : Effect now begun c task o) :
    o.client.link.keepalive.window =
      c.link.keepalive.window := by
  cases hEffect with
  | connect hPhase =>
      rw [Client.connect_of_accepted now hPhase]
      rfl
  | _ => rfl

/- A new deadline does not lie in the past. -/
theorem deadlines_cases
    (hEffect : Effect now begun c task o) :
    ∀ due ∈ o.client.link.deadlines,
      due ∈ c.link.deadlines ∨ now ≤ due := by
  intro due hMember
  cases hEffect with
  | connect hPhase =>
      rw [Client.connect_of_accepted now hPhase] at hMember
      exact Or.inl (List.mem_append_right _ hMember)
  | disconnect => contradiction
  | opening =>
      rcases List.mem_append.mp hMember with hWatch | hTimer
      · rw [List.mem_singleton.mp hWatch]
        exact Or.inr (Nat.le_add_right _ _)
      · exact Or.inl (List.mem_append_right _ hTimer)
  | event =>
      rcases List.mem_append.mp hMember with hWatch | hTimer
      · rw [List.mem_singleton.mp hWatch]
        exact Or.inr (Nat.le_add_right _ _)
      · exact Or.inl (List.mem_append_right _ hTimer)
  | giveUp => exact Or.inl (List.mem_append_right _ hMember)
  | retry =>
      rw [List.mem_singleton.mp hMember]
      exact Or.inr (Nat.le_add_right _ _)
  | restart => contradiction
  | _ => exact Or.inl hMember

end Effect

namespace Turn

/- No timer is overdue while the client exists. -/
def Punctual (t : Turn) : Prop :=
  t.alive = true → ∀ due ∈ t.client.link.deadlines, t.now ≤ due

variable {t t' : Turn}

theorem Punctual.still
    (hPunctual : t.Punctual)
    (hStill : t.Still t')
    (hNow : t'.now = t.now)
    (hAlive : t'.alive = true → t.alive = true) :
    t'.Punctual := by
  intro hLater
  rw [hStill.link, hNow]
  exact hPunctual (hAlive hLater)

theorem Punctual.acted
    {task : Task}
    {o : Outcome}
    (hPunctual : t.Punctual)
    (hActed : t.Acted task o t')
    (hNow : t'.now = t.now)
    (hAlive : t'.alive = t.alive) :
    t'.Punctual := by
  intro hLater due hMember
  rw [hActed.client] at hMember
  rw [hAlive] at hLater
  rw [hNow]
  rcases hActed.effect.deadlines_cases due hMember with
    hOld | hNew
  · exact hPunctual hLater due hOld
  · exact hNew

/- No deadline of a timed run passes unnoticed. -/
theorem punctual_follow
    (hOrderly : t.Orderly)
    (hPunctual : t.Punctual)
    (moves : List Move)
    (hTimely : t.timely moves = true) :
    (t.follow moves).Punctual :=
  timed_induction (P := fun _ t => t.Punctual)
    (fun _ _ _ _ _ hDue => hDue)
    (fun _ _ _ hBefore hStill hNow hAlive =>
      hBefore.still hStill hNow hAlive)
    (fun _ _ _ _ _ hBefore hActed hNow hAlive _ =>
      hBefore.acted hActed hNow hAlive)
    hOrderly [] hPunctual moves hTimely

end Turn

end EventFeed
