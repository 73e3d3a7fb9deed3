import EventFeed.Proofs.Client.SingleFlight

/-
  This file proves that work in front of an agenda is done as
  if there were nothing behind it.

  Only a panic looks further than the first entry: it skips
  all that stands before the return of its handler.  So work
  is sheltered if the return of a handler comes after each of
  its actions, and what handlers do of their own accord always
  is.  Sheltered work may be finished before or after other
  work is laid behind it, and to serve a report is to make its
  call and take steps until it is done.

  Key definitions include:
    * `agendaIsSheltered`
    * `Turn.lay`

  Key results include:
    * `Turn.step_induction`
    * `Turn.step_lay`
    * `Turn.finish_lay`
    * `Turn.follow_eq_serve`
-/

------------------------------------------------------------
-- Sheltered Work
------------------------------------------------------------

namespace EventFeed

/-
  Whether every entry but duties and returns has the return of
  a handler behind it.
-/
def agendaIsSheltered : List Task → Bool
  | [] => true
  | task :: rest =>
      (task.isDuty || task.isReturn ||
          rest.any Task.isReturn) &&
        agendaIsSheltered rest

theorem agendaIsSheltered_append
    {front rest : List Task}
    (hFront :
      ∀ task ∈ front,
        task.isDuty = true ∨ rest.any Task.isReturn = true)
    (hRest : agendaIsSheltered rest = true) :
    agendaIsSheltered (front ++ rest) = true := by
  induction front with
  | nil => exact hRest
  | cons task front ih =>
      rw [List.forall_mem_cons] at hFront
      rw [List.cons_append, agendaIsSheltered, ih hFront.2,
        Bool.and_true, List.any_append]
      rcases hFront.1 with hDuty | hReturn
      · rw [hDuty]
        rfl
      · rw [hReturn]
        simp

theorem agendaIsSheltered_of_suffix
    {agenda rest : List Task}
    (hSuffix : rest <:+ agenda)
    (hAgenda : agendaIsSheltered agenda = true) :
    agendaIsSheltered rest = true := by
  obtain ⟨front, rfl⟩ := hSuffix
  induction front with
  | nil => exact hAgenda
  | cons task front ih =>
      rw [List.cons_append, agendaIsSheltered,
        Bool.and_eq_true] at hAgenda
      exact ih hAgenda.2

namespace Turn

/- The turn with more work behind what it has to do. -/
def lay (t : Turn) (below : List Task) : Turn :=
  { t with agenda := t.agenda ++ below }

variable {t : Turn}
variable {task : Task}
variable {rest below : List Task}

theorem take_lay (t : Turn) (o : Outcome) (below : List Task) :
    (t.lay below).take o = (t.take o).lay below := by
  simp only [take, lay, List.append_assoc]

theorem ifHeld_lay
    {go : Turn → Turn}
    (hGo : go (t.lay below) = (go t).lay below) :
    (t.lay below).ifHeld go = (t.ifHeld go).lay below := by
  unfold ifHeld
  show (if t.held then _ else _) = _
  split
  · exact hGo
  · rfl

theorem withAttempt_lay
    (attempt : Nat)
    {go go' : UInt64 → Turn}
    (hGo :
      ∀ generation,
        go' generation = (go generation).lay below) :
    (t.lay below).withAttempt attempt go' =
      (t.withAttempt attempt go).lay below := by
  have hBegun :
      (t.lay below).begun[attempt]? = t.begun[attempt]? :=
    rfl
  unfold withAttempt
  rw [hBegun]
  cases t.begun[attempt]? with
  | none => rfl
  | some generation => exact hGo generation

theorem answer_lay (t : Turn) (q : Query) (below : List Task) :
    (t.lay below).answer q = (t.answer q).lay below := by
  cases q with
  | isLive attempt => exact withAttempt_lay attempt fun _ => rfl
  | describeAttempt attempt =>
      exact withAttempt_lay attempt fun _ => rfl
  | isRegistered slot =>
      simp only [answer]
      exact ifHeld_lay rfl
  | describeHandlers =>
      simp only [answer]
      exact ifHeld_lay rfl
  | describeClient =>
      simp only [answer]
      exact ifHeld_lay rfl
  | isAlive => rfl

/- The nearest return is found whatever stands behind it. -/
theorem exists_return
    {agenda : List Task}
    (hReturn : agenda.any Task.isReturn = true) :
    ∃ slot answers rest, ∀ below,
      (agenda ++ below).dropWhile (fun task => !task.isReturn) =
        .leave slot answers :: (rest ++ below) := by
  induction agenda with
  | nil => contradiction
  | cons task agenda ih =>
      cases hTask : task.isReturn with
      | true =>
          cases task with
          | leave slot answers =>
              exact ⟨slot, answers, agenda, fun _ => rfl⟩
          | _ => contradiction
      | false =>
          rw [List.any_cons, hTask, Bool.false_or] at hReturn
          obtain ⟨slot, answers, rest, hRest⟩ := ih hReturn
          refine ⟨slot, answers, rest, fun below => ?_⟩
          rw [List.cons_append, List.dropWhile_cons, hTask]
          exact hRest below

/- A panic does not get past the return of its handler. -/
theorem unwind_lay
    (hReturn : t.agenda.any Task.isReturn = true)
    (below : List Task) :
    (t.lay below).unwind = t.unwind.lay below := by
  obtain ⟨slot, answers, rest, hRest⟩ := exists_return hReturn
  have hFirst := hRest []
  rw [List.append_nil, List.append_nil] at hFirst
  have hSecond :
      (t.lay below).agenda.dropWhile
          (fun task => !task.isReturn) =
        .leave slot answers :: (rest ++ below) :=
    hRest below
  unfold unwind
  rw [hFirst, hSecond]
  rfl

theorem handCall_lay
    (t : Turn)
    (c : Callback)
    (below : List Task) :
    (t.lay below).handCall c = (t.handCall c).lay below := by
  have hHandlers :
      (t.lay below).client.handlers = t.client.handlers :=
    rfl
  unfold handCall
  rw [hHandlers]
  split
  · rfl
  · simp [lay]

/- Nothing but a panic looks at the agenda. -/
theorem act_lay
    {a : Action}
    (hReturn :
      a = .panic → t.agenda.any Task.isReturn = true)
    (below : List Task) :
    (t.lay below).act a = (t.act a).lay below := by
  have hTake (o : Outcome) (answer : Answer) :
      ((t.lay below).take o).reply answer =
        ((t.take o).reply answer).lay below := by
    rw [take_lay]
    rfl
  cases a with
  | connect =>
      have hRefusal :
          (t.lay below).client.connectRefusal? =
            t.client.connectRefusal? :=
        rfl
      simp only [act]
      refine ifHeld_lay ?_
      simp only [hRefusal]
      split
      · rfl
      · exact hTake _ _
  | disconnect =>
      simp only [act]
      exact ifHeld_lay (hTake _ _)
  | report attempt r =>
      have hAlive : (t.lay below).alive = t.alive := rfl
      simp only [act, hAlive]
      refine withAttempt_lay attempt fun generation => ?_
      split
      · exact hTake _ _
      · rfl
  | register slot reactions =>
      simp only [act]
      exact ifHeld_lay rfl
  | unregister slot =>
      simp only [act]
      exact ifHeld_lay rfl
  | ask q => exact answer_lay t q below
  | release => rfl
  | panic => exact unwind_lay (hReturn rfl) below
  | batch actions => simp [act, lay]
  | idle => rfl

theorem run_lay
    (hTask :
      task.isDuty = true ∨ task.isReturn = true ∨
        t.agenda.any Task.isReturn = true)
    (below : List Task) :
    (t.lay below).run task = (t.run task).lay below := by
  cases task with
  | act a =>
      refine act_lay (fun _ => ?_) below
      rcases hTask with hDuty | hReturn | hReturn
      · contradiction
      · contradiction
      · exact hReturn
  | note a => rfl
  | gather n => rfl
  | owe d =>
      cases d with
      | call c => exact handCall_lay t c below
      | deliver generation e => exact take_lay t _ below
      | countPing => exact take_lay t _ below
  | leave slot answers => rfl
  | fireTimer generation => exact take_lay t _ below
  | fireAlarm generation token => exact take_lay t _ below

/- Whether the work of a turn is sheltered. -/
def Sheltered (t : Turn) : Prop :=
  agendaIsSheltered t.agenda = true

/- A step sees to the first entry, whatever stands behind. -/
theorem step_lay
    (hSheltered : t.Sheltered)
    (hAgenda : t.agenda ≠ [])
    (below : List Task) :
    (t.lay below).step = t.step.lay below := by
  cases hCons : t.agenda with
  | nil => contradiction
  | cons task rest =>
      have hCons' : (t.lay below).agenda = task :: (rest ++ below) := by
        rw [lay, hCons]
        rfl
      unfold step
      rw [hCons, hCons']
      unfold Sheltered at hSheltered
      rw [hCons, agendaIsSheltered, Bool.and_eq_true,
        Bool.or_eq_true, Bool.or_eq_true, or_assoc] at hSheltered
      exact
        run_lay (t := { t with agenda := rest }) hSheltered.1
          below

------------------------------------------------------------
-- Sheltered Turns Stay So
------------------------------------------------------------

theorem sheltered_take
    (hSheltered : t.Sheltered)
    (o : Outcome) :
    (t.take o).Sheltered := by
  refine agendaIsSheltered_append ?_ hSheltered
  intro task hMember
  obtain ⟨d, _, rfl⟩ := List.mem_map.mp hMember
  exact .inl rfl

theorem sheltered_report
    (hSheltered : t.Sheltered)
    (attempt : Nat)
    (r : Report) :
    (t.act (.report attempt r)).Sheltered := by
  simp only [act, withAttempt]
  split
  · split
    · exact sheltered_take hSheltered _
    · exact hSheltered
  · exact hSheltered

theorem sheltered_act
    (hSheltered : t.Sheltered)
    {a : Action}
    (hReturn : t.agenda.any Task.isReturn = true) :
    (t.act a).Sheltered := by
  cases a with
  | connect =>
      simp only [act, ifHeld]
      split
      · split
        · exact hSheltered
        · exact sheltered_take hSheltered _
      · exact hSheltered
  | disconnect =>
      simp only [act, ifHeld]
      split
      · exact sheltered_take hSheltered _
      · exact hSheltered
  | report attempt r => exact sheltered_report hSheltered attempt r
  | register slot reactions =>
      simp only [act, ifHeld]
      split <;> exact hSheltered
  | unregister slot =>
      simp only [act, ifHeld]
      split <;> exact hSheltered
  | ask q =>
      obtain ⟨answers, hAnswer⟩ := answer_eq t q
      rw [act, hAnswer]
      exact hSheltered
  | release => exact hSheltered
  | panic =>
      simp only [act, unwind]
      split
      · next slot answers rest hDrop =>
          have hSuffix :=
            List.dropWhile_suffix (l := t.agenda)
              fun task => !task.isReturn
          rw [hDrop] at hSuffix
          exact
            agendaIsSheltered_of_suffix
              ((List.suffix_cons _ rest).trans hSuffix)
              hSheltered
      · rfl
  | batch actions =>
      have hRest :
          agendaIsSheltered (.gather actions.length :: t.agenda) =
            true := by
        rw [agendaIsSheltered, hReturn, hSheltered]
        simp
      refine agendaIsSheltered_append ?_ hRest
      intro task _
      exact .inr hReturn
  | idle => exact hSheltered

theorem sheltered_handCall
    (hSheltered : t.Sheltered)
    (c : Callback) :
    (t.handCall c).Sheltered := by
  unfold handCall
  split
  · exact hSheltered
  · next handler _ =>
      have hRest :
          agendaIsSheltered (.leave c.slot t.answers :: t.agenda) =
            true := by
        rw [agendaIsSheltered, hSheltered]
        rfl
      refine agendaIsSheltered_append ?_ hRest
      exact fun _ _ => .inr rfl

theorem sheltered_step
    (hSheltered : t.Sheltered) :
    t.step.Sheltered := by
  cases hCons : t.agenda with
  | nil =>
      have hSame : t.step = t := by rw [step, hCons]
      rw [hSame]
      exact hSheltered
  | cons task rest =>
      have hStep : t.step = { t with agenda := rest }.run task := by
        rw [step, hCons]
      unfold Sheltered at hSheltered
      rw [hCons, agendaIsSheltered, Bool.and_eq_true] at hSheltered
      have hRest : Sheltered { t with agenda := rest } :=
        hSheltered.2
      rw [hStep]
      cases task with
      | act a => exact sheltered_act hRest hSheltered.1
      | owe d =>
          cases d with
          | call c => exact sheltered_handCall hRest c
          | deliver generation e => exact sheltered_take hRest _
          | countPing => exact sheltered_take hRest _
      | note a => exact hRest
      | gather n => exact hRest
      | leave slot answers => exact hRest
      | fireTimer generation => exact sheltered_take hRest _
      | fireAlarm generation token => exact sheltered_take hRest _

end Turn

end EventFeed

------------------------------------------------------------
-- Sheltered Work to Its End
------------------------------------------------------------

namespace EventFeed

namespace Turn

variable {t : Turn}

/- What is traced back step by step holds of every turn. -/
theorem step_induction
    {P : Turn → Prop}
    (hDone : ∀ t, t.agenda = [] → P t)
    (hStep : ∀ t, t.agenda ≠ [] → P t.step → P t)
    (t : Turn) :
    P t := by
  have hWeight : ∀ n t, t.weight ≤ n → P t := by
    intro n
    induction n with
    | zero =>
        intro t hLight
        by_cases hAgenda : t.agenda = []
        · exact hDone t hAgenda
        · have hLighter := weight_step_lt t hAgenda
          omega
    | succ n ih =>
        intro t hLight
        by_cases hAgenda : t.agenda = []
        · exact hDone t hAgenda
        · have hLighter := weight_step_lt t hAgenda
          exact hStep t hAgenda (ih t.step (by omega))
  exact hWeight t.weight t (Nat.le_refl _)

/-
  Sheltered work is finished first, and what is behind it
  after that.
-/
theorem finish_lay
    (hSheltered : t.Sheltered)
    (below : List Task) :
    (t.lay below).finish = (t.finish.lay below).finish := by
  induction t using step_induction with
  | hDone t hAgenda => rw [finish_of_agenda_eq_nil hAgenda]
  | hStep t hAgenda ih =>
      have hAgenda' : (t.lay below).agenda ≠ [] := by
        simp [lay, hAgenda]
      rw [finish_eq_finish_step hAgenda',
        step_lay hSheltered hAgenda,
        ih (sheltered_step hSheltered),
        ← finish_eq_finish_step hAgenda]

/- It takes some steps, after which the rest is as it was. -/
theorem exists_steps_lay
    (hSheltered : t.Sheltered)
    (below : List Task) :
    ∃ n,
      (t.lay below).follow (List.replicate n .step) =
        t.finish.lay below := by
  induction t using step_induction with
  | hDone t hAgenda =>
      exact ⟨0, by rw [finish_of_agenda_eq_nil hAgenda]; rfl⟩
  | hStep t hAgenda ih =>
      obtain ⟨n, hRest⟩ := ih (sheltered_step hSheltered)
      refine ⟨n + 1, ?_⟩
      rw [List.replicate_succ, follow_cons, move,
        step_lay hSheltered hAgenda, hRest,
        ← finish_eq_finish_step hAgenda]

/-
  To serve a report is what it comes to when the report is
  made, by the program or by a handler that is running, and
  all is done that it leads to.
-/
theorem follow_eq_serve
    (hFree : t.isFree = true)
    (attempt : Nat)
    (r : Report) :
    ∃ n,
      t.follow
          (.act (.report attempt r) :: List.replicate n .step) =
        t.serve (.act (.report attempt r)) := by
  have hPut :
      t.move (.act (.report attempt r)) =
        { t with
          agenda := .act (.report attempt r) :: t.agenda } := by
    rw [move, put, if_pos hFree]
  have hFirst :
      (t.move (.act (.report attempt r))).step =
        (t.facing (.act (.report attempt r))).step.lay t.agenda := by
    have hCalm : Action.report attempt r ≠ .panic := by simp
    rw [hPut]
    exact
      act_lay (t := { t with agenda := [] })
        (fun hPanic => absurd hPanic hCalm) t.agenda
  have hSheltered :
      (t.facing (.act (.report attempt r))).step.Sheltered :=
    sheltered_report (t := { t with agenda := [] }) rfl attempt r
  obtain ⟨n, hRest⟩ := exists_steps_lay hSheltered t.agenda
  refine ⟨n + 1, ?_⟩
  rw [follow_cons, List.replicate_succ, follow_cons, move, hFirst,
    hRest, serve_eq_finish_step, lay, agenda_finish]
  rfl

end Turn

end EventFeed
