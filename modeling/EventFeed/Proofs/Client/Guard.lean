import EventFeed.Proofs.Client.Run
import Mathlib.Data.List.Chain
import Mathlib.Data.List.Infix

/-
  This file proves that nothing that is owed gets lost.

  A panic cuts the agenda down to where its handler returns.
  What stands above that place are entries of the handler
  alone: a duty stands first on an agenda, behind another
  duty, or where a handler has returned to it.  So a panic
  takes no duty with it, and neither does any other action.

  Key definitions include:
    * `Task.guards`
    * `Task.duties`
    * `Turn.Guarded`

  Key results include:
    * `Task.duties_dropWhile`
    * `Turn.duties_step_of_aside`
    * `Turn.guarded_move`
-/

------------------------------------------------------------
-- Guarded Agendas
------------------------------------------------------------

namespace EventFeed

namespace Task

/- Whether an entry may stand right behind another one. -/
def guards (task later : Task) : Prop :=
  later.isDuty = true →
    task.isDuty = true ∨ task.isReturn = true

/- The duties among the entries of an agenda. -/
def duties (agenda : List Task) : List Task :=
  agenda.filter isDuty

variable {task later : Task}
variable {front back agenda : List Task}

theorem guards_of_isDuty_eq_false
    (hLater : later.isDuty = false) :
    task.guards later := by
  intro hDuty
  rw [hLater] at hDuty
  contradiction

@[simp]
theorem duties_append (front back : List Task) :
    duties (front ++ back) = duties front ++ duties back :=
  List.filter_append front back

theorem duties_eq_nil
    (hNone : ∀ task ∈ front, task.isDuty = false) :
    duties front = [] := by
  apply List.filter_eq_nil_iff.mpr
  intro task hMember
  rw [hNone task hMember]
  exact Bool.false_ne_true

/- Entries that are no duties stand behind one another. -/
theorem isChain_of_isDuty_eq_false
    (hNone : ∀ task ∈ front, task.isDuty = false) :
    front.IsChain guards := by
  apply List.Pairwise.isChain
  apply List.pairwise_of_forall_mem_list
  intro task _ later hLater
  exact guards_of_isDuty_eq_false (hNone later hLater)

/- Duties stand behind one another, and in front of others. -/
theorem isChain_owed_append
    (owed : List Duty)
    (hBack : back.IsChain guards) :
    (owed.map owe ++ back).IsChain guards := by
  induction owed with
  | nil => exact hBack
  | cons d owed ih =>
      apply List.IsChain.cons ih
      intro _ _ _
      exact Or.inl rfl

/-
  Entries that are no duties may stand in front of others if
  no duty comes next, or if the last of them is a return.
-/
theorem isChain_append_of_isDuty_eq_false
    (hNone : ∀ task ∈ front, task.isDuty = false)
    (hBack : back.IsChain guards)
    (hNext :
      ∀ last ∈ front.getLast?, ∀ next ∈ back.head?,
        last.guards next) :
    (front ++ back).IsChain guards :=
  (isChain_of_isDuty_eq_false hNone).append hBack hNext

/- Behind an entry that guards no duty there is none. -/
theorem isDuty_head_of_isChain
    (hChain : (task :: agenda).IsChain guards)
    (hDuty : task.isDuty = false)
    (hReturn : task.isReturn = false) :
    ∀ next ∈ agenda.head?, next.isDuty = false := by
  intro next hNext
  have hGuards := hChain.rel_head? hNext
  rw [Bool.eq_false_iff]
  intro hOwed
  rcases hGuards hOwed with hFirst | hFirst
  · rw [hDuty] at hFirst
    contradiction
  · rw [hReturn] at hFirst
    contradiction

/-
  No duty stands above the place where a handler returns, if
  none stands first.
-/
theorem duties_dropWhile
    (hChain : agenda.IsChain guards)
    (hFirst : ∀ next ∈ agenda.head?, next.isDuty = false) :
    duties (agenda.dropWhile fun task => !task.isReturn) =
      duties agenda := by
  induction agenda with
  | nil => rfl
  | cons task rest ih =>
      have hDuty : task.isDuty = false := hFirst task rfl
      cases hReturn : task.isReturn with
      | true => rw [List.dropWhile_cons_of_neg (by simp [hReturn])]
      | false =>
          rw [List.dropWhile_cons_of_pos (by simp [hReturn])]
          rw [ih hChain.tail
            (isDuty_head_of_isChain hChain hDuty hReturn)]
          simp [duties, hDuty]

end Task

namespace Turn

/-
  Every duty stands first, behind another duty, or where a
  handler returns.
-/
def Guarded (t : Turn) : Prop :=
  t.agenda.IsChain Task.guards

end Turn

end EventFeed

------------------------------------------------------------
-- Actions Keep Duties
------------------------------------------------------------

namespace EventFeed

namespace Turn

variable {t : Turn}

theorem duties_unwind
    (hGuarded : t.Guarded)
    (hFirst : ∀ next ∈ t.agenda.head?, next.isDuty = false) :
    Task.duties t.unwind.agenda = Task.duties t.agenda := by
  rw [← Task.duties_dropWhile hGuarded hFirst]
  unfold unwind
  cases hDrop :
      t.agenda.dropWhile fun task => !task.isReturn with
  | nil => rfl
  | cons task rest =>
      have hReturn : task.isReturn = true := by
        have hHead :=
          List.head?_dropWhile_not
            (fun task : Task => !task.isReturn) t.agenda
        rw [hDrop] at hHead
        simpa using hHead
      cases task with
      | leave slot answers => rfl
      | _ => contradiction

theorem guarded_unwind
    (hGuarded : t.Guarded) :
    t.unwind.Guarded := by
  have hDrop :
      (t.agenda.dropWhile fun task => !task.isReturn).IsChain
        Task.guards :=
    List.IsChain.suffix hGuarded (List.dropWhile_suffix _)
  unfold unwind
  split
  · next hBelow =>
      rw [hBelow] at hDrop
      exact hDrop.tail
  · exact .nil

/-
  What an action leaves of the agenda: what was there, with
  duties or with further actions in front, or what a panic
  leaves.
-/
inductive Remains (t t' : Turn) : Prop
  | same (hAgenda : t'.agenda = t.agenda)
  | owed
      (owed : List Duty)
      (hAgenda : t'.agenda = owed.map Task.owe ++ t.agenda)
  | acts
      (front : List Task)
      (hNone : ∀ task ∈ front, task.isDuty = false)
      (hAgenda : t'.agenda = front ++ t.agenda)
  | unwound (hTurn : t' = t.unwind)

theorem remains_act (t : Turn) (a : Action) : t.Remains (t.act a) := by
  cases a with
  | connect =>
      simp only [act, ifHeld]
      split
      · split
        · exact .same rfl
        · exact .owed _ rfl
      · exact .same rfl
  | disconnect =>
      simp only [act, ifHeld]
      split
      · exact .owed _ rfl
      · exact .same rfl
  | report attempt r =>
      simp only [act, withAttempt]
      split
      · split
        · exact .owed _ rfl
        · exact .same rfl
      · exact .same rfl
  | register slot reactions =>
      simp only [act, ifHeld]
      split <;> exact .same rfl
  | unregister slot =>
      simp only [act, ifHeld]
      split <;> exact .same rfl
  | ask q =>
      rcases answer_eq t q with ⟨answers, hAnswer⟩
      rw [act, hAnswer]
      exact .same rfl
  | release => exact .same rfl
  | panic => exact .unwound rfl
  | batch actions =>
      refine
        .acts (actions.map Task.act ++ [.gather actions.length])
          ?_ (by simp [act])
      intro task hMember
      simp only [List.mem_append, List.mem_map,
        List.mem_singleton] at hMember
      rcases hMember with ⟨_, _, rfl⟩ | rfl <;> rfl
  | idle => exact .same rfl

/- What was owed before an action is owed after it as well. -/
theorem duties_suffix_act
    (hGuarded : t.Guarded)
    (hFirst : ∀ next ∈ t.agenda.head?, next.isDuty = false)
    (a : Action) :
    Task.duties t.agenda <:+ Task.duties (t.act a).agenda := by
  cases remains_act t a with
  | same hAgenda => rw [hAgenda]
  | owed owed hAgenda =>
      rw [hAgenda, Task.duties_append]
      exact List.suffix_append _ _
  | acts front hNone hAgenda =>
      rw [hAgenda, Task.duties_append]
      exact List.suffix_append _ _
  | unwound hTurn =>
      rw [hTurn, duties_unwind hGuarded hFirst]

theorem guarded_act
    (hGuarded : t.Guarded)
    (hFirst : ∀ next ∈ t.agenda.head?, next.isDuty = false)
    (a : Action) :
    (t.act a).Guarded := by
  unfold Guarded at hGuarded ⊢
  cases remains_act t a with
  | same hAgenda =>
      rw [hAgenda]
      exact hGuarded
  | owed owed hAgenda =>
      rw [hAgenda]
      exact Task.isChain_owed_append owed hGuarded
  | acts front hNone hAgenda =>
      rw [hAgenda]
      apply
        Task.isChain_append_of_isDuty_eq_false hNone hGuarded
      intro last _ next hNext
      exact Task.guards_of_isDuty_eq_false (hFirst next hNext)
  | unwound hTurn =>
      rw [hTurn]
      exact guarded_unwind hGuarded

------------------------------------------------------------
-- Runs Stay Guarded
------------------------------------------------------------

/- A handler that was called returns to what was owed. -/
theorem guarded_handCall
    (hGuarded : t.Guarded)
    (c : Callback) :
    (t.handCall c).Guarded := by
  unfold handCall
  split
  · exact hGuarded
  · next handler hHandler =>
      have hBack :
          (Task.leave c.slot t.answers :: t.agenda).IsChain
            Task.guards := by
        apply List.IsChain.cons hGuarded
        intro _ _ _
        exact Or.inr rfl
      refine
        Task.isChain_append_of_isDuty_eq_false ?_ hBack ?_
      · intro task hMember
        simp only [List.mem_flatMap, List.mem_cons,
          List.not_mem_nil, or_false] at hMember
        rcases hMember with ⟨_, _, rfl | rfl⟩ <;> rfl
      · intro last _ next hNext
        cases hNext
        exact Task.guards_of_isDuty_eq_false rfl

theorem guarded_run
    {task : Task}
    {rest : List Task}
    (hGuarded : t.Guarded)
    (hAgenda : t.agenda = task :: rest) :
    ({ t with agenda := rest }.run task).Guarded := by
  have hChain : (task :: rest).IsChain Task.guards := by
    rw [← hAgenda]
    exact hGuarded
  have hRest : Guarded { t with agenda := rest } := hChain.tail
  have hTake :
      ∀ o, ({ t with agenda := rest }.take o).Guarded :=
    fun o => Task.isChain_owed_append o.owed hRest
  cases task with
  | act a =>
      apply guarded_act hRest
      exact Task.isDuty_head_of_isChain hChain rfl rfl
  | note a => exact hRest
  | gather n => exact hRest
  | owe d =>
      cases d with
      | call c => exact guarded_handCall hRest c
      | deliver generation e => exact hTake _
      | countPing => exact hTake _
  | leave slot answers => exact hRest
  | fireTimer generation => exact hTake _
  | fireAlarm generation token => exact hTake _

/- No duty stands first on a free agenda. -/
theorem isDuty_head_of_isFree
    (hFree : t.isFree = true) :
    ∀ next ∈ t.agenda.head?, next.isDuty = false := by
  intro next hNext
  unfold isFree at hFree
  cases hAgenda : t.agenda with
  | nil =>
      rw [hAgenda] at hNext
      contradiction
  | cons first rest =>
      rw [hAgenda] at hNext hFree
      cases hNext
      cases next <;> first | rfl | contradiction

theorem guarded_put
    (hGuarded : t.Guarded)
    (task : Task) :
    (t.put task).Guarded := by
  unfold put
  split
  · next hFree =>
      apply List.IsChain.cons hGuarded
      intro next hNext
      apply Task.guards_of_isDuty_eq_false
      exact isDuty_head_of_isFree hFree next hNext
  · exact hGuarded

/- And seeing to any entry but a duty keeps all duties. -/
theorem duties_suffix_step
    (hGuarded : t.Guarded)
    (hFree : t.isFree = true) :
    Task.duties t.agenda <:+ Task.duties t.step.agenda := by
  unfold step
  cases hAgenda : t.agenda with
  | nil => rw [hAgenda]
  | cons task rest =>
      have hChain : (task :: rest).IsChain Task.guards := by
        rw [← hAgenda]
        exact hGuarded
      have hTake :
          ∀ o : Outcome,
            Task.duties rest <:+
              Task.duties (o.owed.map Task.owe ++ rest) := by
        intro o
        rw [Task.duties_append]
        exact List.suffix_append _ _
      cases task with
      | act a =>
          exact
            duties_suffix_act (t := { t with agenda := rest })
              hChain.tail
              (Task.isDuty_head_of_isChain hChain rfl rfl) a
      | note a => exact List.suffix_refl _
      | gather n => exact List.suffix_refl _
      | owe d =>
          unfold isFree at hFree
          rw [hAgenda] at hFree
          contradiction
      | leave slot answers => exact List.suffix_refl _
      | fireTimer generation => exact hTake _
      | fireAlarm generation token => exact hTake _

/- So it keeps just these, if it adds none. -/
theorem duties_step_of_aside
    (hGuarded : t.Guarded)
    (hFree : t.isFree = true)
    {front back : List Task}
    (hAgenda : t.step.agenda = front ++ back)
    (hFront : ∀ task ∈ front, task.isDuty = false)
    (hBack : back <:+ t.agenda) :
    Task.duties t.step.agenda = Task.duties t.agenda := by
  have hSuffix := duties_suffix_step hGuarded hFree
  apply List.Sublist.antisymm _ hSuffix.sublist
  rw [hAgenda, Task.duties_append, Task.duties_eq_nil hFront]
  exact hBack.sublist.filter Task.isDuty

/- Every move keeps the agenda guarded. -/
theorem guarded_move
    (hGuarded : t.Guarded)
    (m : Move) :
    (t.move m).Guarded := by
  cases m with
  | step =>
      simp only [move, step]
      split
      · exact hGuarded
      · next hAgenda => exact guarded_run hGuarded hAgenda
  | act a => exact guarded_put hGuarded _
  | timer generation =>
      simp only [move]
      split
      · exact guarded_put hGuarded _
      · exact hGuarded
  | alarm generation token =>
      simp only [move]
      split
      · exact guarded_put hGuarded _
      · exact hGuarded
  | wait span => exact hGuarded
  | begin =>
      simp only [move, beginAttempt]
      split
      · split <;> exact hGuarded
      · exact hGuarded
  | drop =>
      simp only [move]
      split <;> exact hGuarded

end Turn

end EventFeed
