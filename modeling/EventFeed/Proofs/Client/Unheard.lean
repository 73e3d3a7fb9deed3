import EventFeed.Proofs.Client.Calm
import EventFeed.Proofs.Client.Guard
import EventFeed.Proofs.Client.Recast

/-
  This file says what of a turn has nothing to do with its
  handlers.

  Take the handlers away, with all that they are doing and
  all that shows of it.  What is left is the connection, what
  is owed, and the calls and log lines that came of it.  An
  operation or a duty makes of it what it makes of the whole
  turn, and whatever else a handler does leaves it alone.

  Key definitions include:
    * `Recasting.deafened`
    * `Turn.unheard`

  Key results include:
    * `Turn.unheard_run`
    * `Turn.unheard_step_of_owe`
    * `Turn.unheard_step_of_aside`
-/

------------------------------------------------------------
-- Turns That Nobody Hears
------------------------------------------------------------

namespace EventFeed

/- Nobody listens. -/
def Recasting.deafened : Recasting where
  config := id
  handlers := fun _ => Registry.empty
  sealed_config := fun _ => rfl

/- What shows of it if nobody listens. -/
def Observation.unheard? : Observation → Option Observation
  | .remark (.panicked _) => none
  | .remark r => some (.remark r)
  | .call c _ => some (.call c false)
  | .did _ _ => none
  | .began _ _ => none

theorem Observation.unheard?_of_unheard?
    {o o' : Observation}
    (hUnheard : o.unheard? = some o') :
    o'.unheard? = some o' := by
  cases o with
  | remark r => cases r <;> cases hUnheard <;> rfl
  | call c heard =>
      cases hUnheard
      rfl
  | _ => contradiction

theorem Observation.filterMap_unheard?
    (seen : List Observation) :
    (seen.filterMap unheard?).filterMap unheard? =
      seen.filterMap unheard? := by
  rw [List.filterMap_filterMap]
  apply List.filterMap_congr
  intro o _
  cases hUnheard : o.unheard? with
  | none => rfl
  | some o' => exact unheard?_of_unheard? hUnheard

theorem Task.duties_duties (agenda : List Task) :
    duties (duties agenda) = duties agenda := by
  simp [duties]

namespace Turn

/- The turn without its handlers and what is up to them. -/
def unheard (t : Turn) : Turn :=
  { t with
    client := t.client.recast .deafened
    agenda := Task.duties t.agenda
    answers := []
    seen := t.seen.filterMap Observation.unheard? }

theorem unheard_unheard (t : Turn) :
    t.unheard.unheard = t.unheard := by
  unfold unheard
  rw [Task.duties_duties, Observation.filterMap_unheard?]
  rfl

/- What was called is the same, whoever heard it. -/
theorem hearings_unheard (t : Turn) :
    t.unheard.hearings.map Prod.fst =
      t.hearings.map Prod.fst := by
  have hCall :
      ∀ o : Observation,
        (o.unheard?.bind Observation.heard?).map Prod.fst =
          o.heard?.map Prod.fst := by
    intro o
    cases o with
    | remark r => cases r <;> rfl
    | _ => rfl
  unfold hearings unheard
  rw [← List.filterMap_reverse, List.filterMap_filterMap,
    List.map_filterMap, List.map_filterMap]
  exact List.filterMap_congr fun o _ => hCall o

variable {t : Turn}
variable {task : Task}
variable {rest : List Task}

------------------------------------------------------------
-- Operations and Duties
------------------------------------------------------------

theorem unheard_take (t : Turn) (o : Outcome) :
    (t.take o).unheard =
      (t.unheard.take (o.recast .deafened)).unheard := by
  unfold unheard take
  simp only [List.filterMap_append, Task.duties_append,
    Task.duties_duties, Observation.filterMap_unheard?]
  rfl

/- A client that nobody hears does the same. -/
theorem outcome_unheard
    (t : Turn)
    (hOperation : task.isOperation = true) :
    t.unheard.outcome task =
      (t.outcome task).recast .deafened := by
  rw [← outcome_recast .deafened t hOperation]
  cases task with
  | act a => cases a <;> rfl
  | _ => rfl

/-
  What an operation makes of a turn that nobody hears is what
  nobody hears of what it makes of the turn.
-/
theorem unheard_run
    (t : Turn)
    (hOperation : task.isOperation = true) :
    (t.run task).unheard = (t.unheard.run task).unheard := by
  rcases isTaken_or_release hOperation with hTaken | rfl
  · rcases run_eq_take t hTaken with ⟨answers, hRun⟩
    rcases run_eq_take t.unheard hTaken with
      ⟨answers', hUnheard⟩
    have hTake := unheard_take t (t.outcome task)
    rw [← outcome_unheard t hOperation] at hTake
    rw [hRun, hUnheard]
    exact hTake
  · have hUnheard := unheard_unheard { t with held := false }
    exact hUnheard.symm

/- An entry that is no duty does not count. -/
theorem unheard_of_cons
    (hAgenda : t.agenda = task :: rest)
    (hDuty : task.isDuty = false) :
    t.unheard = unheard { t with agenda := rest } := by
  have hDuties : Task.duties t.agenda = Task.duties rest := by
    rw [hAgenda]
    exact List.filter_cons_of_neg (by simp [hDuty])
  unfold unheard
  rw [hDuties]

/- A call that nobody listens to comes to nothing. -/
theorem handCall_of_deaf
    (hNone : t.client.handlers = Registry.empty)
    (c : Callback) :
    t.handCall c =
      { t with seen := .call c false :: t.seen } := by
  unfold handCall
  rw [hNone]
  cases c <;> rfl

theorem unheard_handCall (t : Turn) (c : Callback) :
    (t.handCall c).unheard =
      { t.unheard with
        seen := .call c false :: t.unheard.seen } := by
  unfold handCall
  cases t.client.handlers.get c.slot with
  | none => rfl
  | some handler =>
      have hNone :
          Task.duties
              ((handler.headD []).flatMap
                fun a => [Task.act a, Task.note a]) = [] := by
        apply Task.duties_eq_nil
        intro task hMember
        simp only [List.mem_flatMap, List.mem_cons,
          List.not_mem_nil, or_false] at hMember
        rcases hMember with ⟨_, _, rfl | rfl⟩ <;> rfl
      unfold unheard
      rw [Task.duties_append, hNone]
      rfl

/- What a duty is remarked on shows whoever listens. -/
theorem unheard_perform (t : Turn) (d : Duty) :
    (t.take (t.client.perform d)).unheard =
      t.unheard.take (t.unheard.client.perform d) := by
  have hShown :
      ((t.client.perform d).remarks.map
            Observation.remark).reverse.filterMap
          Observation.unheard? =
        ((t.client.perform d).remarks.map
          Observation.remark).reverse := by
    cases d with
    | deliver generation e =>
        unfold Client.perform
        by_cases hLive : t.client.link.isLive generation = true
        · simp only [if_pos hLive, Client.accept,
            Client.deliveryRemark]
          cases e.delivery <;> rfl
        · simp only [if_neg hLive]
          rfl
    | _ => rfl
  have hPerform := t.client.perform_recast .deafened d
  show _ = t.unheard.take ((t.client.recast .deafened).perform d)
  rw [hPerform]
  unfold unheard take
  rw [List.filterMap_append, hShown, Task.duties_append]
  have hOwed :
      Task.duties ((t.client.perform d).owed.map Task.owe) =
        (t.client.perform d).owed.map Task.owe := by
    apply List.filter_eq_self.mpr
    intro task hMember
    rcases List.mem_map.mp hMember with ⟨d, _, rfl⟩
    rfl
  rw [hOwed]
  rfl

theorem step_of_cons
    (hAgenda : t.agenda = task :: rest) :
    t.step = Turn.run { t with agenda := rest } task := by
  unfold step
  rw [hAgenda]

/- A duty is the same duty if nobody listens. -/
theorem unheard_step_of_owe
    {d : Duty}
    (hAgenda : t.agenda = .owe d :: rest) :
    t.step.unheard = t.unheard.step := by
  have hUnheard :
      t.unheard.agenda = .owe d :: Task.duties rest := by
    show Task.duties t.agenda = _
    rw [hAgenda]
    rfl
  rw [step_of_cons hAgenda, step_of_cons hUnheard]
  cases d with
  | call c =>
      have hCalled :=
        unheard_handCall { t with agenda := rest } c
      rw [← handCall_of_deaf rfl] at hCalled
      exact hCalled
  | deliver generation e =>
      exact
        unheard_perform { t with agenda := rest }
          (.deliver generation e)
  | countPing =>
      exact unheard_perform { t with agenda := rest } .countPing

------------------------------------------------------------
-- Everything Else
------------------------------------------------------------

theorem unheard_unwind
    (hGuarded : t.Guarded)
    (hFirst : ∀ next ∈ t.agenda.head?, next.isDuty = false) :
    t.unwind.unheard = t.unheard := by
  have hDuties := duties_unwind hGuarded hFirst
  unfold unwind at hDuties ⊢
  split
  · next slot answers below hBelow =>
      rw [hBelow] at hDuties
      simp only [] at hDuties
      unfold unheard
      simp only [hDuties]
      rfl
  · next hNone =>
      split at hDuties
      · next hBelow => exact absurd hBelow (hNone _ _ _)
      · unfold unheard
        simp only [hDuties]

/- An action that is no call of the client does not show. -/
theorem unheard_act_of_aside
    (hGuarded : t.Guarded)
    (hFirst : ∀ next ∈ t.agenda.head?, next.isDuty = false)
    {a : Action}
    (hAside : a.isOperation = false) :
    (t.act a).unheard = t.unheard := by
  cases a with
  | register slot reactions =>
      simp only [act, ifHeld]
      split <;> rfl
  | unregister slot =>
      simp only [act, ifHeld]
      split <;> rfl
  | ask q =>
      rcases answer_eq t q with ⟨answers, hAnswer⟩
      rw [act, hAnswer]
      rfl
  | panic => exact unheard_unwind hGuarded hFirst
  | batch actions =>
      have hNone :
          Task.duties (actions.map Task.act) = [] := by
        apply Task.duties_eq_nil
        intro task hMember
        rcases List.mem_map.mp hMember with ⟨_, _, rfl⟩
        rfl
      unfold unheard act
      simp only [Task.duties_append, hNone]
      rfl
  | idle => rfl
  | _ => contradiction

/-
  Whatever is neither a duty nor a call of the client leaves
  alone what has nothing to do with handlers.
-/
theorem unheard_step_of_aside
    (hGuarded : t.Guarded)
    (hAgenda : t.agenda = task :: rest)
    (hDuty : task.isDuty = false)
    (hAside : task.isOperation = false) :
    t.step.unheard = t.unheard := by
  have hChain : (task :: rest).IsChain Task.guards := by
    rw [← hAgenda]
    exact hGuarded
  rw [step_of_cons hAgenda, unheard_of_cons hAgenda hDuty]
  cases task with
  | act a =>
      exact
        unheard_act_of_aside (t := { t with agenda := rest })
          hChain.tail
          (Task.isDuty_head_of_isChain hChain rfl rfl) hAside
  | note a => rfl
  | gather n => rfl
  | leave slot answers => rfl
  | _ => contradiction

end Turn

end EventFeed
