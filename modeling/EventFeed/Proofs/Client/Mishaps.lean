import EventFeed.Proofs.Client.Remarks
import EventFeed.Proofs.Client.Unheard

/-
  This file says what a handler that fails leaves in the log.

  Its failure is the only thing that is logged as an error, in
  one line, and no operation of the client writes such a line.
  All other lines are there whoever listens.

  Key definitions include:
    * `Turn.log`
    * `Turn.mishaps`
    * `Turn.panics`

  Key results include:
    * `Turn.filter_log_error`
    * `Turn.filter_log_unheard`
    * `Turn.mishaps_follow`
-/

------------------------------------------------------------
-- Log Lines
------------------------------------------------------------

namespace EventFeed

/- The line that an observation leaves in the log. -/
def Observation.line? : Observation → Option LogLine
  | .remark r => some r.line
  | _ => none

/- The handler whose failure was observed. -/
def Observation.failure? : Observation → Option Slot
  | .remark (.panicked slot) => some slot
  | _ => none

/- No operation remarks on a handler that failed. -/
theorem Effect.failure?_eq_none
    {now : Time}
    {begun : Array UInt64}
    {c : Client}
    {task : Task}
    {o : Outcome}
    (hEffect : Effect now begun c task o) :
    ∀ r ∈ o.remarks,
      (Observation.remark r).failure? = none := by
  intro r hMember
  have hOwn := List.all_eq_true.mp hEffect.own r hMember
  cases r <;> first | rfl | contradiction

namespace Turn

/- The log so far, line by line. -/
def log (t : Turn) : List LogLine :=
  t.seen.reverse.filterMap Observation.line?

/- The handlers that failed so far, in order. -/
def mishaps (t : Turn) : List Slot :=
  t.seen.reverse.filterMap Observation.failure?

/- The handler that fails with a move. -/
def failing (t : Turn) : Move → List Slot
  | .step =>
      match t.agenda with
      | .act .panic :: rest =>
          match rest.dropWhile fun task => !task.isReturn with
          | .leave slot _ :: _ => [slot]
          | _ => []
      | _ => []
  | _ => []

/- The handlers that fail along a run, in order. -/
def panics (t : Turn) : List Move → List Slot
  | [] => []
  | m :: moves => t.failing m ++ (t.move m).panics moves

/- A failed handler leaves one line, and nothing else does. -/
theorem filter_log_error (t : Turn) :
    t.log.filter (fun line => line.level == .error) =
      t.mishaps.map fun slot => (Remark.panicked slot).line := by
  have hLine :
      ∀ o : Observation,
        o.line?.filter (fun line => line.level == .error) =
          o.failure?.map fun slot =>
            (Remark.panicked slot).line := by
    intro o
    cases o with
    | remark r => cases r <;> rfl
    | _ => rfl
  unfold log mishaps
  rw [List.filter_filterMap, List.map_filterMap]
  exact List.filterMap_congr fun o _ => hLine o

/- All other lines are there whoever listens. -/
theorem filter_log_unheard (t : Turn) :
    t.unheard.log =
      t.log.filter fun line => line.level != .error := by
  have hLine :
      ∀ o : Observation,
        o.unheard?.bind Observation.line? =
          o.line?.filter fun line => line.level != .error := by
    intro o
    cases o with
    | remark r => cases r <;> rfl
    | _ => rfl
  unfold log unheard
  rw [← List.filterMap_reverse, List.filterMap_filterMap,
    List.filter_filterMap]
  exact List.filterMap_congr fun o _ => hLine o

variable {t t' : Turn}

theorem mishaps_of_seen
    (new : List Observation)
    (hSeen : t'.seen = new ++ t.seen)
    (hNone : ∀ o ∈ new, o.failure? = none) :
    t'.mishaps = t.mishaps := by
  have hNew : new.reverse.filterMap Observation.failure? = [] := by
    apply List.filterMap_eq_nil_iff.mpr
    intro o hMember
    exact hNone o (List.mem_reverse.mp hMember)
  unfold mishaps
  rw [hSeen, List.reverse_append, List.filterMap_append, hNew,
    List.append_nil]

/- What a handler does short of failing leaves no error. -/
theorem mishaps_act
    (t : Turn)
    {a : Action}
    (hAside : a.isOperation = false)
    (hPanic : a ≠ .panic) :
    (t.act a).mishaps = t.mishaps := by
  have hSame : (t.act a).seen = t.seen := by
    cases a with
    | register slot reactions =>
        simp only [act, ifHeld]
        split <;> rfl
    | unregister slot =>
        simp only [act, ifHeld]
        split <;> rfl
    | ask q =>
        rcases answer_eq t q with ⟨answers, hAnswer⟩
        rw [act, hAnswer]
    | panic => exact absurd rfl hPanic
    | batch actions => rfl
    | idle => rfl
    | _ => contradiction
  exact mishaps_of_seen [] hSame (by simp)

theorem mishaps_unwind (t : Turn) :
    t.unwind.mishaps =
      t.mishaps ++
        Turn.failing
          { t with agenda := .act .panic :: t.agenda } .step := by
  unfold unwind failing
  simp only []
  generalize
    t.agenda.dropWhile (fun task => !task.isReturn) = below
  cases below with
  | nil => simp [mishaps]
  | cons task rest =>
      cases task with
      | leave slot answers => simp [mishaps, Observation.failure?]
      | _ => simp [mishaps]

/-
  What an entry makes of the client is an effect, unless it is
  all about the handlers.
-/
theorem effect_outcome
    (t : Turn)
    {task : Task}
    (hTaken : isTaken task = true) :
    Effect t.now t.begun t.client task (t.outcome task) ∨
      (t.outcome task).remarks = [] := by
  have hNothing :
      Effect t.now t.begun t.client task t.client.unchanged :=
    .nothing task [] (by simp)
  cases task with
  | act a =>
      cases a with
      | connect =>
          left
          simp only [outcome]
          split
          · by_cases hPhase :
                t.client.link.phase.acceptsConnect = true
            · exact .connect hPhase
            · rw [Client.connect, if_neg hPhase]
              exact hNothing
          · exact hNothing
      | disconnect =>
          left
          simp only [outcome]
          split
          · exact .disconnect
          · exact hNothing
      | report attempt r =>
          left
          simp only [outcome]
          split
          · next generation hBegun =>
              split
              · exact Effect.of_report hBegun r
              · exact hNothing
          · exact hNothing
      | register slot reactions =>
          right
          simp only [outcome]
          split <;> rfl
      | unregister slot =>
          right
          simp only [outcome]
          split <;> rfl
      | ask q => exact Or.inl hNothing
      | idle => exact Or.inl hNothing
      | _ => contradiction
  | owe d =>
      left
      cases d with
      | call c => contradiction
      | _ => exact Effect.of_perform rfl
  | fireTimer generation =>
      exact Or.inl (Effect.of_fireTimer generation)
  | fireAlarm generation token =>
      exact Or.inl (Effect.of_fireAlarm generation token)
  | _ => contradiction

/- Nor does any operation. -/
theorem failure?_outcome
    (t : Turn)
    {task : Task}
    (hTaken : isTaken task = true) :
    ∀ r ∈ (t.outcome task).remarks,
      (Observation.remark r).failure? = none := by
  rcases t.effect_outcome hTaken with hEffect | hNone
  · exact hEffect.failure?_eq_none
  · simp [hNone]

theorem mishaps_run
    (t : Turn)
    {task : Task}
    (hPanic : task ≠ .act .panic) :
    (t.run task).mishaps = t.mishaps := by
  by_cases hTaken : isTaken task = true
  · rcases run_eq_take t hTaken with ⟨answers, hRun⟩
    have hNone := failure?_outcome t hTaken
    apply
      mishaps_of_seen
        ((t.outcome task).remarks.map
          Observation.remark).reverse
    · rw [hRun]
      rfl
    · intro o hMember
      rw [List.mem_reverse, List.mem_map] at hMember
      rcases hMember with ⟨r, hRemark, rfl⟩
      exact hNone r hRemark
  · cases task with
    | act a =>
        by_cases hOperation : a.isOperation = true
        · have hTask : Task.isOperation (.act a) = true :=
            hOperation
          rcases isTaken_or_release hTask with
            hTaken' | hRelease
          · exact absurd hTaken' hTaken
          · cases hRelease
            rfl
        · apply mishaps_act t
          · simpa using hOperation
          · exact fun hEq => hPanic (congrArg Task.act hEq)
    | note a =>
        exact
          mishaps_of_seen [.did a _] rfl
            (by simp [Observation.failure?])
    | gather n => rfl
    | leave slot answers => rfl
    | owe d =>
        cases d with
        | call c =>
            simp only [run, handCall]
            split
            · exact
                mishaps_of_seen [.call c false] rfl
                  (by simp [Observation.failure?])
            · exact
                mishaps_of_seen [.call c true] rfl
                  (by simp [Observation.failure?])
        | _ => contradiction
    | _ => contradiction

/- A move adds the handler that fails with it, if one does. -/
theorem mishaps_move (t : Turn) (m : Move) :
    (t.move m).mishaps = t.mishaps ++ t.failing m := by
  have hSame :
      ∀ t' : Turn, t'.seen = t.seen →
        t'.mishaps = t.mishaps ++ [] := by
    intro t' hSeen
    rw [List.append_nil]
    exact mishaps_of_seen [] hSeen (by simp)
  have hPut : ∀ task, (t.put task).seen = t.seen := by
    intro task
    unfold put
    split <;> rfl
  cases m with
  | step =>
      cases hAgenda : t.agenda with
      | nil =>
          rw [move, step_idle hAgenda]
          simp [failing, hAgenda]
      | cons task rest =>
          rw [move, step_of_cons hAgenda]
          by_cases hPanic : task = .act .panic
          · subst hPanic
            have hFailing :=
              mishaps_unwind { t with agenda := rest }
            simp only [failing, hAgenda] at hFailing ⊢
            exact hFailing
          · have hNone : t.failing .step = [] := by
              simp only [failing, hAgenda]
              split
              · next hHead =>
                  rw [List.cons.injEq] at hHead
                  exact absurd hHead.1 hPanic
              · rfl
            rw [mishaps_run _ hPanic, hNone, List.append_nil]
            rfl
  | act a => exact hSame _ (hPut _)
  | timer generation =>
      simp only [move]
      split
      · exact hSame _ (hPut _)
      · exact hSame _ rfl
  | alarm generation token =>
      simp only [move]
      split
      · exact hSame _ (hPut _)
      · exact hSame _ rfl
  | wait span => exact hSame _ rfl
  | begin =>
      simp only [move, beginAttempt]
      split
      · split
        · show _ = t.mishaps ++ []
          rw [List.append_nil]
          exact
            mishaps_of_seen [.began _ _] rfl
              (by simp [Observation.failure?])
        · exact hSame _ rfl
      · exact hSame _ rfl
  | drop =>
      simp only [move]
      split <;> exact hSame _ rfl

theorem mishaps_follow (t : Turn) (moves : List Move) :
    (t.follow moves).mishaps = t.mishaps ++ t.panics moves := by
  induction moves generalizing t with
  | nil => simp [panics]
  | cons m moves ih =>
      rw [follow_cons, ih, mishaps_move, panics,
        List.append_assoc]

end Turn

end EventFeed
