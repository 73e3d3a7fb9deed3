import EventFeed.Client.Bound
import EventFeed.Proofs.Client.History

/-
  This file proves that calm handlers leave a connection
  alone.

  A handler is calm when no reaction of it re-enters the
  connection: it may ask, fail, or change the handlers, but it
  neither connects nor disconnects nor reports for an attempt.
  A turn whose handlers and agenda are calm runs to its end
  without an operation on the client, and all that shows of
  it are the calls that were owed already.

  Key definitions include:
    * `Action.isCalm`
    * `Registry.Calm`
    * `Turn.Calm`
    * `Turn.Eased`

  Key results include:
    * `Turn.finish_eq_finish_step`
    * `Turn.Calm.step`
    * `Turn.Calm.finish`
-/

------------------------------------------------------------
-- Finished Turns
------------------------------------------------------------

namespace EventFeed

namespace Turn

variable {t t' : Turn}

theorem runFor_of_agenda_eq_nil
    (hAgenda : t.agenda = [])
    (n : Nat) :
    runFor n t = t := by
  cases n with
  | zero => rfl
  | succ n => simp [runFor, hAgenda]

theorem runFor_add (m n : Nat) (t : Turn) :
    runFor (m + n) t = runFor n (runFor m t) := by
  induction m generalizing t with
  | zero => rw [Nat.zero_add, runFor]
  | succ m ih =>
      rw [Nat.succ_add]
      cases hAgenda : t.agenda with
      | nil => simp [runFor, hAgenda, runFor_of_agenda_eq_nil]
      | cons task rest => simp [runFor, hAgenda, ih]

/- A finished turn takes no more steps. -/
theorem finish_of_agenda_eq_nil
    (hAgenda : t.agenda = []) :
    t.finish = t :=
  runFor_of_agenda_eq_nil hAgenda t.weight

/- A turn can be finished one step at a time. -/
theorem finish_eq_finish_step
    (hAgenda : t.agenda ≠ []) :
    t.finish = t.step.finish := by
  have hLighter := weight_step_lt t hAgenda
  obtain ⟨n, hWeight⟩ :
      ∃ n, t.weight = t.step.weight + n + 1 :=
    ⟨t.weight - t.step.weight - 1, by omega⟩
  have hFirst :
      runFor (t.step.weight + n + 1) t =
        runFor (t.step.weight + n) t.step := by
    cases hCons : t.agenda with
    | nil => contradiction
    | cons task rest => simp [runFor, hCons]
  rw [finish, hWeight, hFirst, runFor_add,
    runFor_of_agenda_eq_nil (agenda_runFor _ _ (Nat.le_refl _))]
  rfl

/- What every step keeps holds of the finished turn. -/
theorem finish_induction
    {P : Turn → Prop}
    (hStep : ∀ t, P t → P t.step)
    (hStart : P t) :
    P t.finish := by
  have hRun : ∀ n t, P t → P (runFor n t) := by
    intro n
    induction n with
    | zero => exact fun t hBefore => hBefore
    | succ n ih =>
        intro t hBefore
        unfold runFor
        split
        · exact hBefore
        · exact ih _ (hStep t hBefore)
  exact hRun t.weight t hStart

end Turn

end EventFeed

------------------------------------------------------------
-- Calm Handlers
------------------------------------------------------------

namespace EventFeed

mutual

/- Whether an action does not re-enter the connection. -/
def Action.isCalm : Action → Bool
  | .connect => false
  | .disconnect => false
  | .report _ _ => false
  | .register _ reactions => handlerIsCalm reactions
  | .batch actions => reactionIsCalm actions
  | _ => true

/- Whether all actions of a reaction are calm. -/
def reactionIsCalm : List Action → Bool
  | [] => true
  | a :: rest => a.isCalm && reactionIsCalm rest

/- Whether all reactions of a handler are calm. -/
def handlerIsCalm : List (List Action) → Bool
  | [] => true
  | r :: rest => reactionIsCalm r && handlerIsCalm rest

end

theorem isCalm_of_mem
    {actions : List Action}
    (hCalm : reactionIsCalm actions = true)
    {a : Action}
    (hMember : a ∈ actions) :
    a.isCalm = true := by
  induction actions with
  | nil => contradiction
  | cons first rest ih =>
      rw [reactionIsCalm, Bool.and_eq_true] at hCalm
      rcases List.mem_cons.mp hMember with rfl | hRest
      · exact hCalm.1
      · exact ih hCalm.2 hRest

/- The next reaction of a calm handler, and the others. -/
theorem handlerIsCalm_headD_tail
    {handler : Handler}
    (hCalm : handlerIsCalm handler = true) :
    reactionIsCalm (handler.headD []) = true ∧
      handlerIsCalm handler.tail = true := by
  cases handler with
  | nil => exact ⟨rfl, rfl⟩
  | cons reaction rest =>
      rw [handlerIsCalm, Bool.and_eq_true] at hCalm
      exact hCalm

/- Whether seeing to an entry leaves the connection alone. -/
def Task.isCalm : Task → Bool
  | .act a => a.isCalm
  | .note _ => true
  | .gather _ => true
  | .leave _ _ => true
  | .owe (.call _) => true
  | _ => false

/- All handlers are calm. -/
def Registry.Calm (r : Registry Handler) : Prop :=
  ∀ slot handler, r.get slot = some handler →
    handlerIsCalm handler = true

namespace Registry.Calm

variable {r : Registry Handler}

theorem put
    (hCalm : r.Calm)
    (slot : Slot)
    {handler : Option Handler}
    (hHandler :
      ∀ h, handler = some h → handlerIsCalm h = true) :
    (r.put slot handler).Calm := by
  intro other h hGet
  by_cases hSame : other = slot
  · rw [hSame, Registry.get_put_same] at hGet
    exact hHandler h hGet
  · rw [r.get_put_of_ne handler hSame] at hGet
    exact hCalm other h hGet

theorem register
    (hCalm : r.Calm)
    (slot : Slot)
    {handler : Handler}
    (hHandler : handlerIsCalm handler = true) :
    (r.register slot handler).Calm := by
  refine hCalm.put slot fun h hSome => ?_
  cases hSome
  exact hHandler

theorem unregister (hCalm : r.Calm) (slot : Slot) :
    (r.unregister slot).Calm :=
  hCalm.put slot (by simp)

end Registry.Calm

namespace Turn

/- The handlers and all that is left to do are calm. -/
structure Calm (t : Turn) : Prop where
  handlers : t.client.handlers.Calm
  agenda : ∀ task ∈ t.agenda, task.isCalm = true

theorem Untouched.refl (t : Turn) : t.Untouched t :=
  ⟨rfl, rfl, rfl, rfl⟩

theorem Untouched.trans
    {t t' t'' : Turn}
    (hFirst : t.Untouched t')
    (hSecond : t'.Untouched t'') :
    t.Untouched t'' where
  config := hSecond.config.trans hFirst.config
  link := hSecond.link.trans hFirst.link
  tally := hSecond.tally.trans hFirst.tally
  begun := hSecond.begun.trans hFirst.begun

/-
  The connection was left alone.  The handlers are calm, and
  so is all that is new on the agenda.
-/
structure Eased (t t' : Turn) : Prop where
  untouched : t.Untouched t'
  handlers : t'.client.handlers.Calm
  agenda :
    ∀ task ∈ t'.agenda, task.isCalm = true ∨ task ∈ t.agenda

namespace Eased

variable {t t' : Turn}

/- Nothing but the handlers and the agenda changed. -/
theorem of_withHandlers
    {handlers : Registry Handler}
    (hHandlers : handlers.Calm)
    (hClient : t'.client = t.client.withHandlers handlers)
    (hAgenda :
      ∀ task ∈ t'.agenda, task.isCalm = true ∨ task ∈ t.agenda)
    (hBegun : t'.begun = t.begun) :
    t.Eased t' := by
  refine ⟨⟨?_, ?_, ?_, hBegun⟩, ?_, hAgenda⟩
  · rw [hClient]
    rfl
  · rw [hClient]
    rfl
  · rw [hClient]
    rfl
  · rw [hClient]
    exact hHandlers

/- Nothing but the agenda changed. -/
theorem of_client
    (hHandlers : t.client.handlers.Calm)
    (hClient : t'.client = t.client)
    (hAgenda :
      ∀ task ∈ t'.agenda, task.isCalm = true ∨ task ∈ t.agenda)
    (hBegun : t'.begun = t.begun) :
    t.Eased t' :=
  of_withHandlers hHandlers hClient hAgenda hBegun

theorem unwind
    (hHandlers : t.client.handlers.Calm) :
    t.Eased t.unwind := by
  unfold Turn.unwind
  split
  · next slot answers rest hDrop =>
      refine of_client hHandlers rfl ?_ rfl
      intro task hMember
      have hBelow :
          task ∈ t.agenda.dropWhile fun task =>
            !task.isReturn := by
        rw [hDrop]
        exact List.mem_cons_of_mem _ hMember
      exact Or.inr ((List.dropWhile_suffix _).subset hBelow)
  · exact of_client hHandlers rfl (by simp) rfl

theorem act
    (hHandlers : t.client.handlers.Calm)
    {a : Action}
    (hAction : a.isCalm = true) :
    t.Eased (t.act a) := by
  -- most actions leave the agenda as it is
  have hSame :
      ∀ task ∈ t.agenda, task.isCalm = true ∨ task ∈ t.agenda :=
    fun _ hMember => Or.inr hMember
  cases a with
  | connect => contradiction
  | disconnect => contradiction
  | report => contradiction
  | register slot reactions =>
      have hAfter := hHandlers.register slot hAction
      simp only [Turn.act, ifHeld]
      split
      · exact of_withHandlers hAfter rfl hSame rfl
      · exact of_client hHandlers rfl hSame rfl
  | unregister slot =>
      have hAfter := hHandlers.unregister slot
      simp only [Turn.act, ifHeld]
      split
      · exact of_withHandlers hAfter rfl hSame rfl
      · exact of_client hHandlers rfl hSame rfl
  | ask q =>
      rcases answer_eq t q with ⟨answers, hAnswer⟩
      rw [Turn.act, hAnswer]
      exact of_client hHandlers rfl hSame rfl
  | panic => exact unwind hHandlers
  | batch actions =>
      refine of_client hHandlers rfl ?_ rfl
      intro task hMember
      simp only [Turn.act, List.mem_append, List.mem_map,
        List.mem_cons] at hMember
      rcases hMember with ⟨a, hFirst, rfl⟩ | rfl | hRest
      · exact Or.inl (isCalm_of_mem hAction hFirst)
      · exact Or.inl rfl
      · exact Or.inr hRest
  | release => exact of_client hHandlers rfl hSame rfl
  | idle => exact of_client hHandlers rfl hSame rfl

theorem handCall
    (hHandlers : t.client.handlers.Calm)
    (c : Callback) :
    t.Eased (t.handCall c) := by
  unfold Turn.handCall
  split
  · exact
      of_client hHandlers rfl (fun _ hMember => Or.inr hMember)
        rfl
  · next handler hHandler =>
      rcases
        handlerIsCalm_headD_tail (hHandlers _ _ hHandler)
        with ⟨hNext, hOthers⟩
      have hAfter := hHandlers.register c.slot hOthers
      refine of_withHandlers hAfter rfl ?_ rfl
      intro task hMember
      simp only [List.mem_append, List.mem_flatMap,
        List.mem_cons, List.not_mem_nil, or_false] at hMember
      rcases hMember with ⟨a, hFirst, rfl | rfl⟩ | rfl | hRest
      · exact Or.inl (isCalm_of_mem hNext hFirst)
      · exact Or.inl rfl
      · exact Or.inl rfl
      · exact Or.inr hRest

theorem run
    (hHandlers : t.client.handlers.Calm)
    {task : Task}
    (hTask : task.isCalm = true) :
    t.Eased (t.run task) := by
  have hSame :
      ∀ task ∈ t.agenda, task.isCalm = true ∨ task ∈ t.agenda :=
    fun _ hMember => Or.inr hMember
  cases task with
  | act a => exact act hHandlers hTask
  | owe d =>
      cases d with
      | call c => exact handCall hHandlers c
      | _ => contradiction
  | fireTimer => contradiction
  | fireAlarm => contradiction
  | _ => exact of_client hHandlers rfl hSame rfl

end Eased

namespace Calm

variable {t : Turn}

theorem run
    (hCalm : t.Calm)
    {task : Task}
    (hTask : task.isCalm = true) :
    (t.run task).Calm ∧ t.Untouched (t.run task) := by
  have hEased := Eased.run hCalm.handlers hTask
  refine ⟨⟨hEased.handlers, ?_⟩, hEased.untouched⟩
  intro other hMember
  rcases hEased.agenda other hMember with hNew | hOld
  · exact hNew
  · exact hCalm.agenda other hOld

/- A step of a calm turn leaves the connection alone. -/
theorem step
    (hCalm : t.Calm) :
    t.step.Calm ∧ t.Untouched t.step := by
  have hAll := hCalm.agenda
  unfold Turn.step
  split
  · exact ⟨hCalm, .refl t⟩
  · next task rest hAgenda =>
      rw [hAgenda, List.forall_mem_cons] at hAll
      have hRest : Turn.Calm { t with agenda := rest } :=
        ⟨hCalm.handlers, hAll.2⟩
      have hRun := hRest.run hAll.1
      exact
        ⟨hRun.1, hRun.2.config, hRun.2.link, hRun.2.tally,
          hRun.2.begun⟩

end Calm

end Turn

end EventFeed

------------------------------------------------------------
-- Calm Turns to Their End
------------------------------------------------------------

namespace EventFeed

theorem Client.isFailedBy_of_isCalm
    {c : Client}
    {begun : Array UInt64}
    {task : Task}
    (hCalm : task.isCalm = true) :
    c.isFailedBy begun task = false := by
  rw [Bool.eq_false_iff]
  intro hFails
  rcases Effect.cases_of_isFailedBy hFails with
    ⟨_, _, rfl, _⟩ | ⟨_, _, rfl, _⟩ <;> contradiction

/- A calm entry has no effect. -/
theorem Effect.signs_of_isCalm
    {now : Time}
    {begun : Array UInt64}
    {c : Client}
    {task : Task}
    {o : Outcome}
    (hEffect : Effect now begun c task o)
    (hCalm : task.isCalm = true) :
    o.signs = [] := by
  cases hEffect with
  | nothing _ remarks hStale =>
      have hSilent := Remark.silent_of_isStale hStale
      rw [Outcome.signs, hSilent.2]
      rfl
  | giveUp _ _ _ _ _ _ _ hFails =>
      rw [Client.isFailedBy_of_isCalm hCalm] at hFails
      contradiction
  | retry _ _ _ _ _ _ _ hFails =>
      rw [Client.isFailedBy_of_isCalm hCalm] at hFails
      contradiction
  | _ => contradiction

namespace Turn.Calm

variable {t : Turn}

theorem story_step
    (hCalm : t.Calm)
    (hOrderly : t.Orderly) :
    t.step.story = t.story := by
  rcases still_or_acted hOrderly (t.change_move .step) with
    hStill | ⟨task, o, hActed⟩
  · exact hStill.story
  · have hNone :=
      hActed.effect.signs_of_isCalm
        (hCalm.agenda task hActed.member)
    have hStory := hActed.story
    rw [hNone, List.append_nil] at hStory
    exact hStory

/-
  A calm turn that runs to its end leaves the connection
  alone, and shows what was owed already.
-/
theorem finish
    (hCalm : t.Calm)
    (hOrderly : t.Orderly) :
    t.Untouched t.finish ∧ t.finish.signs = t.story := by
  have hEnd :
      t.finish.Orderly ∧ t.finish.Calm ∧
        t.Untouched t.finish ∧ t.finish.story = t.story := by
    refine
      finish_induction
        (P := fun t' =>
          t'.Orderly ∧ t'.Calm ∧ t.Untouched t' ∧
            t'.story = t.story)
        ?_ ⟨hOrderly, hCalm, .refl t, rfl⟩
    rintro t' ⟨hOrderly', hCalm', hUntouched, hStory⟩
    have hStep := hCalm'.step
    exact
      ⟨orderly_move hOrderly' .step, hStep.1,
        hUntouched.trans hStep.2,
        (hCalm'.story_step hOrderly').trans hStory⟩
  rcases hEnd with ⟨_, _, hUntouched, hStory⟩
  rw [story, owedSigns, agenda_finish, List.filterMap_nil,
    List.append_nil] at hStory
  exact ⟨hUntouched, hStory⟩

end Turn.Calm

end EventFeed
