import EventFeed.Client.Bound
import EventFeed.Proofs.Client.Run

/-
  This file says when two turns differ in nothing but answers
  and some of their remarks.

  The gist of a turn leaves both out.  Nothing is ever done
  because of them: answers go back to those who asked, and
  what was seen is never looked at again.  So the gist of a
  turn tells the gist of all that can come of it, and turns
  that are alike remain so, whatever happens to both.

  Key definitions include:
    * `Turn.gist`
    * `Turn.Alike`

  Key results include:
    * `Turn.gist_run`
    * `Turn.gist_move`
    * `Turn.Alike.follow`
    * `Turn.Alike.finish`
-/

------------------------------------------------------------
-- Gists
------------------------------------------------------------

namespace EventFeed

/- The entry without the answers that it sets aside. -/
def Task.gist : Task → Task
  | .leave slot _ => .leave slot []
  | task => task

/- The observation without its answer, if it is kept. -/
def Observation.gist?
    (keep : Remark → Bool) :
    Observation → Option Observation
  | .remark r => if keep r then some (.remark r) else none
  | .did a _ => some (.did a .done)
  | o => some o

namespace Turn

/- The turn without answers, and with the remarks to keep. -/
def gist (keep : Remark → Bool) (t : Turn) : Turn :=
  { t with
    agenda := t.agenda.map Task.gist
    answers := []
    seen := t.seen.filterMap (Observation.gist? keep) }

/-
  Two turns differ in nothing but answers and remarks that
  are not kept.
-/
def Alike (keep : Remark → Bool) (t t' : Turn) : Prop :=
  t.gist keep = t'.gist keep

end Turn

namespace Task

variable (task : Task)

@[simp]
theorem gist_note (a : Action) : (note a).gist = .note a :=
  rfl

@[simp]
theorem gist_gather (n : Nat) : (gather n).gist = .gather n :=
  rfl

@[simp]
theorem gist_leave (slot : Slot) (answers : List Answer) :
    (leave slot answers).gist = .leave slot [] :=
  rfl

@[simp]
theorem gist_gist : task.gist.gist = task.gist := by
  cases task <;> rfl

@[simp]
theorem isReturn_gist :
    task.gist.isReturn = task.isReturn := by
  cases task <;> rfl

end Task

namespace Observation

variable (keep : Remark → Bool)

theorem gist?_gist? (o : Observation) :
    (o.gist? keep).bind (gist? keep) = o.gist? keep := by
  cases o with
  | remark r => cases hKeep : keep r <;> simp [gist?, hKeep]
  | _ => rfl

@[simp]
theorem filterMap_gist? (seen : List Observation) :
    (seen.filterMap (gist? keep)).filterMap (gist? keep) =
      seen.filterMap (gist? keep) := by
  rw [List.filterMap_filterMap]
  congr 1
  exact funext (gist?_gist? keep)

@[simp]
theorem filterMap_gist?_cons
    (o : Observation)
    (seen : List Observation) :
    (o :: seen.filterMap (gist? keep)).filterMap (gist? keep) =
      (o :: seen).filterMap (gist? keep) := by
  rw [List.filterMap_cons, List.filterMap_cons,
    filterMap_gist?]

end Observation

end EventFeed

------------------------------------------------------------
-- Gists of Steps
------------------------------------------------------------

namespace EventFeed

namespace Turn

variable (keep : Remark → Bool)
variable (t : Turn)

@[simp]
theorem now_gist : (t.gist keep).now = t.now :=
  rfl

@[simp]
theorem begun_gist : (t.gist keep).begun = t.begun :=
  rfl

@[simp]
theorem alive_gist : (t.gist keep).alive = t.alive :=
  rfl

@[simp]
theorem held_gist : (t.gist keep).held = t.held :=
  rfl

@[simp]
theorem client_gist : (t.gist keep).client = t.client :=
  rfl

@[simp]
theorem agenda_gist :
    (t.gist keep).agenda = t.agenda.map Task.gist :=
  rfl

@[simp]
theorem gist_gist : (t.gist keep).gist keep = t.gist keep := by
  simp [gist, Function.comp_def]

/- An answer is no part of the gist. -/
@[simp]
theorem gist_reply (a : Answer) :
    (t.reply a).gist keep = t.gist keep :=
  rfl

theorem gist_take (o : Outcome) :
    ((t.gist keep).take o).gist keep = (t.take o).gist keep := by
  simp [gist, take, Function.comp_def]

theorem gist_withHandlers (handlers : Registry Handler) :
    { t.gist keep with
        client := t.client.withHandlers handlers }.gist keep =
      { t with client := t.client.withHandlers handlers }.gist
        keep := by
  simp [gist, Function.comp_def]

theorem gist_ifHeld
    {go : Turn → Turn}
    (hGo : (go (t.gist keep)).gist keep = (go t).gist keep) :
    ((t.gist keep).ifHeld go).gist keep =
      (t.ifHeld go).gist keep := by
  unfold ifHeld
  rw [held_gist]
  split
  · exact hGo
  · exact gist_gist keep t

theorem gist_withAttempt
    {attempt : Nat}
    {go go' : UInt64 → Turn}
    (hGo : ∀ generation,
      (go' generation).gist keep = (go generation).gist keep) :
    ((t.gist keep).withAttempt attempt go').gist keep =
      (t.withAttempt attempt go).gist keep := by
  unfold withAttempt
  rw [begun_gist]
  split
  · exact hGo _
  · exact gist_gist keep t

theorem gist_answer (q : Query) :
    (t.answer q).gist keep = t.gist keep := by
  rcases answer_eq t q with ⟨answers, hAnswer⟩
  rw [hAnswer]
  rfl

theorem gist_unwind :
    (t.gist keep).unwind.gist keep = t.unwind.gist keep := by
  have hDrop :
      (t.gist keep).agenda.dropWhile
          (fun task => !task.isReturn) =
        (t.agenda.dropWhile fun task => !task.isReturn).map
          Task.gist := by
    simp [List.dropWhile_map, Function.comp_def]
  unfold unwind
  rw [hDrop]
  cases t.agenda.dropWhile fun task => !task.isReturn with
  | nil => simp [gist]
  | cons task rest =>
      cases task with
      | leave slot answers => simp [gist, Function.comp_def]
      | _ => simp [gist, Task.gist]

theorem gist_act (a : Action) :
    ((t.gist keep).act a).gist keep = (t.act a).gist keep := by
  cases a with
  | connect =>
      apply gist_ifHeld
      simp only [client_gist, now_gist]
      split
      · exact gist_gist keep t
      · exact gist_take keep t _
  | disconnect => exact gist_ifHeld keep t (gist_take keep t _)
  | report attempt r =>
      apply gist_withAttempt
      intro generation
      cases hAlive : t.alive <;> simp [hAlive, gist_take]
  | register slot reactions =>
      exact gist_ifHeld keep t (gist_withHandlers keep t _)
  | unregister slot =>
      exact gist_ifHeld keep t (gist_withHandlers keep t _)
  | ask q =>
      simp only [act, gist_answer]
      exact gist_gist keep t
  | release => simp [gist, act, reply, Function.comp_def]
  | panic => exact gist_unwind keep t
  | batch actions => simp [gist, act, Function.comp_def]
  | idle => exact gist_gist keep t

theorem gist_handCall (c : Callback) :
    ((t.gist keep).handCall c).gist keep =
      (t.handCall c).gist keep := by
  unfold handCall
  rw [client_gist]
  split <;> simp [gist, Function.comp_def]

theorem gist_run (task : Task) :
    ((t.gist keep).run task.gist).gist keep =
      (t.run task).gist keep := by
  cases task with
  | act a => exact gist_act keep t a
  | note a =>
      simp [gist, run, Observation.gist?, Function.comp_def]
  | gather n => simp [gist, run, Function.comp_def]
  | owe d =>
      cases d with
      | call c => exact gist_handCall keep t c
      | _ => exact gist_take keep t _
  | leave slot answers => exact gist_gist keep t
  | fireTimer generation => exact gist_take keep t _
  | fireAlarm generation token => exact gist_take keep t _

theorem gist_step :
    (t.gist keep).step.gist keep = t.step.gist keep := by
  cases hAgenda : t.agenda with
  | nil => simp [step, hAgenda]
  | cons task rest =>
      have hFirst :
          (t.gist keep).step =
            ({ t with agenda := rest }.gist keep).run
              task.gist := by
        simp [step, hAgenda, gist]
      rw [hFirst, gist_run]
      simp [step, hAgenda]

------------------------------------------------------------
-- Gists of Runs
------------------------------------------------------------

@[simp]
theorem isFree_gist : (t.gist keep).isFree = t.isFree := by
  unfold isFree
  rw [agenda_gist]
  cases t.agenda with
  | nil => rfl
  | cons task rest => cases task <;> rfl

theorem gist_put (task : Task) :
    ((t.gist keep).put task).gist keep =
      (t.put task).gist keep := by
  unfold put
  rw [isFree_gist]
  split
  · simp [gist, Function.comp_def]
  · exact gist_gist keep t

theorem gist_beginAttempt :
    (t.gist keep).beginAttempt.gist keep =
      t.beginAttempt.gist keep := by
  unfold beginAttempt
  rw [client_gist, alive_gist]
  split
  · split
    · simp [gist, Function.comp_def]
    · exact gist_gist keep t
  · exact gist_gist keep t

theorem gist_move (m : Move) :
    ((t.gist keep).move m).gist keep =
      (t.move m).gist keep := by
  cases m with
  | step => exact gist_step keep t
  | act a => exact gist_put keep t _
  | timer generation =>
      cases hAlive : t.alive <;> simp [move, hAlive, gist_put]
  | alarm generation token =>
      cases hAlive : t.alive <;> simp [move, hAlive, gist_put]
  | wait span => simp [gist, move, Function.comp_def]
  | begin => exact gist_beginAttempt keep t
  | drop =>
      simp only [move, held_gist, agenda_gist,
        List.isEmpty_map]
      split
      · simp [gist, Function.comp_def]
      · exact gist_gist keep t

/- The gist of a turn tells how much work is left. -/
@[simp]
theorem weight_gist : (t.gist keep).weight = t.weight := by
  have hAgenda :
      ∀ agenda : List Task,
        agendaWeight (agenda.map Task.gist) =
          agendaWeight agenda := by
    intro agenda
    induction agenda with
    | nil => rfl
    | cons task rest ih =>
        rw [List.map_cons, agendaWeight_cons,
          agendaWeight_cons, ih]
        cases task <;> rfl
  simp only [weight, client_gist, agenda_gist, hAgenda]

theorem gist_runFor (n : Nat) :
    (runFor n (t.gist keep)).gist keep =
      (runFor n t).gist keep := by
  induction n generalizing t with
  | zero => exact gist_gist keep t
  | succ n ih =>
      cases hAgenda : t.agenda with
      | nil => simp [runFor, hAgenda]
      | cons task rest =>
          have hStep :
              (runFor n (t.gist keep).step).gist keep =
                (runFor n t.step).gist keep := by
            rw [← ih (t.gist keep).step, gist_step, ih]
          simpa [runFor, hAgenda] using hStep

theorem gist_finish :
    (t.gist keep).finish.gist keep = t.finish.gist keep := by
  unfold finish
  rw [weight_gist]
  exact gist_runFor keep t t.weight

end Turn

end EventFeed

------------------------------------------------------------
-- Turns That Are Alike
------------------------------------------------------------

namespace EventFeed

namespace Turn

namespace Alike

variable {keep : Remark → Bool}
variable {t t' t'' : Turn}

theorem refl (t : Turn) : t.Alike keep t :=
  rfl

theorem symm (hAlike : t.Alike keep t') : t'.Alike keep t :=
  Eq.symm hAlike

theorem trans
    (hFirst : t.Alike keep t')
    (hSecond : t'.Alike keep t'') :
    t.Alike keep t'' :=
  Eq.trans hFirst hSecond

/- Whatever goes by the gist of a turn keeps turns alike. -/
theorem of_gist
    {f : Turn → Turn}
    (hGist : ∀ t, (f (t.gist keep)).gist keep = (f t).gist keep)
    (hAlike : t.Alike keep t') :
    (f t).Alike keep (f t') := by
  unfold Alike at *
  rw [← hGist t, ← hGist t', hAlike]

theorem move (hAlike : t.Alike keep t') (m : Move) :
    (t.move m).Alike keep (t'.move m) :=
  of_gist (f := (·.move m)) (fun t => gist_move keep t m)
    hAlike

theorem finish (hAlike : t.Alike keep t') :
    t.finish.Alike keep t'.finish :=
  hAlike.of_gist (gist_finish keep)

/- Turns that are alike remain so, whatever happens. -/
theorem follow
    (hAlike : t.Alike keep t')
    (moves : List Move) :
    (t.follow moves).Alike keep (t'.follow moves) := by
  induction moves generalizing t t' with
  | nil => exact hAlike
  | cons m moves ih => exact ih (hAlike.move m)

theorem begun (hAlike : t.Alike keep t') : t'.begun = t.begun :=
  (congrArg Turn.begun hAlike).symm

theorem alive (hAlike : t.Alike keep t') : t'.alive = t.alive :=
  (congrArg Turn.alive hAlike).symm

theorem client
    (hAlike : t.Alike keep t') :
    t'.client = t.client :=
  (congrArg Turn.client hAlike).symm

end Alike

end Turn

end EventFeed
