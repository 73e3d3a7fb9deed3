import EventFeed.Proofs.Client.Account
import EventFeed.Proofs.Client.Mishaps
import EventFeed.Proofs.Client.Outlook

/-
  This file proves that handlers which do not call the client
  only watch it.

  A run is a sequence of inputs: calls of the client, signals
  and lapses of time.  A signal and a disconnect wait until
  nothing is owed of what came before them.  Then the inputs
  alone decide what becomes of the connection and who would be
  called with what.  Handlers may be there or not, be put in
  and taken out at any time, and fail: all that shows of it is
  who listens, and one line for each failure.

  Key definitions include:
    * `Turn.isGated`
    * `Turn.inputs`
    * `Turn.Follows`
    * `Turn.InHand`
    * `Turn.Concurs`

  Key results include:
    * `Turn.InHand.follows`
    * `Turn.InHand.follow`
    * `Turn.observed_follow`
-/

------------------------------------------------------------
-- Inputs
------------------------------------------------------------

namespace EventFeed

/- What comes to a client from outside. -/
inductive Input
  /- a call of the client or a signal is attended to -/
  | operation (task : Task)
  /- time passes -/
  | wait (span : Span)
  /- an attempt begins -/
  | begin
  /- the client ends if nobody has a handle on it -/
  | drop

/-
  Whether the entry waits until nothing is owed any more.  A
  connect and the release of the handle do not.
-/
def Task.waits (task : Task) : Bool :=
  match task with
  | .act .connect => false
  | .act .release => false
  | task => task.isOperation

namespace Turn

/- Whether the move waits for what it has to wait for. -/
def passesGate (t : Turn) : Move → Bool
  | .step =>
      match t.agenda with
      | task :: rest =>
          !task.waits || (Task.duties rest).isEmpty
      | [] => true
  | _ => true

/-
  Whether every signal and every disconnect of a run waits
  until nothing is owed of what came before.
-/
def isGated (t : Turn) : List Move → Bool
  | [] => true
  | m :: moves => t.passesGate m && (t.move m).isGated moves

/- What comes from outside with a move. -/
def input (t : Turn) : Move → List Input
  | .step =>
      match t.agenda with
      | task :: _ =>
          if task.isOperation then [.operation task] else []
      | [] => []
  | .wait span => [.wait span]
  | .begin => [.begin]
  | .drop => if t.agenda.isEmpty then [.drop] else []
  | _ => []

/- What comes from outside along a run. -/
def inputs (t : Turn) : List Move → List Input
  | [] => []
  | m :: moves => t.input m ++ (t.move m).inputs moves

/- The generations that have begun once another attempt has. -/
def joined (t : Turn) : Array UInt64 :=
  match t.client.link.transport with
  | some generation =>
      if t.alive then t.begun.push generation else t.begun
  | none => t.begun

/- What an input leads to if nobody listens. -/
def attend (t : Turn) : Input → Turn
  | .operation task => (t.run task).outlook
  | .wait span => t.stamp (t.now + span) t.begun t.alive t.held
  | .begin => t.stamp t.now t.joined t.alive t.held
  | .drop => t.stamp t.now t.begun (t.alive && t.held) t.held

/- The scenes that an input leads to if nobody listens. -/
def told (t : Turn) : Input → List Scene
  | .operation task =>
      t.scene.next (t.run task).scene ++
        (t.run task).unheard.ahead
  | _ => []

def attendAll (t : Turn) (inputs : List Input) : Turn :=
  inputs.foldl attend t

def recital (t : Turn) : List Input → List Scene
  | [] => []
  | i :: inputs => t.told i ++ (t.attend i).recital inputs

theorem recital_append
    (t : Turn)
    (inputs later : List Input) :
    t.recital (inputs ++ later) =
      t.recital inputs ++ (t.attendAll inputs).recital later := by
  induction inputs generalizing t with
  | nil => rfl
  | cons i inputs ih =>
      rw [List.cons_append, recital, recital, ih,
        List.append_assoc]
      rfl

/-
  The other turn is what comes of the first one by some
  inputs, as far as this is not up to the handlers.
-/
structure Follows
    (t t' : Turn)
    (inputs : List Input) : Prop where
  outlook : t'.outlook = t.outlook.attendAll inputs
  scenes :
    t.scene.next t'.scene ++ t'.unheard.ahead =
      t.unheard.ahead ++ t.outlook.recital inputs

variable {t t' : Turn}
variable {task : Task}
variable {rest : List Task}

------------------------------------------------------------
-- Moves and Their Inputs
------------------------------------------------------------

theorem scene_eq_of_unheard
    (hUnheard : t'.unheard = t.unheard) :
    t'.scene = t.scene := by
  rw [← scene_unheard, hUnheard, scene_unheard]

/- What is up to the handlers is no input. -/
theorem follows_of_unheard
    (hUnheard : t'.unheard = t.unheard) :
    t.Follows t' [] := by
  constructor
  · rw [outlook, hUnheard]
    rfl
  · rw [scene_eq_of_unheard hUnheard, hUnheard,
      Scene.next_self]
    simp [recital]

/- Nor is a duty. -/
theorem follows_step_of_owe
    {d : Duty}
    (hAgenda : t.agenda = .owe d :: rest) :
    t.Follows t.step [] := by
  have hStep := unheard_step_of_owe hAgenda
  have hUnheard : t.unheard.agenda ≠ [] := by
    show Task.duties t.agenda ≠ []
    rw [hAgenda]
    simp [Task.duties, Task.isDuty]
  constructor
  · rw [outlook, hStep, ← finish_eq_finish_step hUnheard]
    rfl
  · rw [ahead_of_ne_nil hUnheard, ← hStep, scene_unheard,
      scene_unheard]
    simp [recital]

/- Nothing is owed when an operation is attended to. -/
theorem follows_step_of_isOperation
    (hAgenda : t.agenda = task :: rest)
    (hOperation : task.isOperation = true)
    (hDone : Task.duties rest = []) :
    t.Follows t.step [.operation task] := by
  have hDuty : task.isDuty = false := by
    cases task <;> first | rfl | contradiction
  have hRest := unheard_of_cons hAgenda hDuty
  have hNone : t.unheard.agenda = [] := by
    rw [hRest]
    exact hDone
  have hOutlook : t.outlook = t.unheard :=
    finish_of_agenda_eq_nil hNone
  have hStep : t.step.unheard = (t.outlook.run task).unheard := by
    rw [step_of_cons hAgenda, unheard_run _ hOperation,
      hOutlook, hRest]
  constructor
  · rw [outlook, hStep]
    rfl
  · rw [ahead_of_nil hNone, ← scene_unheard t.step, hStep,
      scene_unheard, ← scene_unheard t, ← hOutlook]
    simp [recital, told]

/- The time and the past have no bearing on what is owed. -/
theorem follows_of_stamp
    {now : Time}
    {begun : Array UInt64}
    {alive held : Bool}
    {i : Input}
    (hUnheard :
      t'.unheard = t.unheard.stamp now begun alive held)
    (hAttend :
      t.outlook.attend i =
        t.outlook.stamp now begun alive held)
    (hTold : t.outlook.told i = []) :
    t.Follows t' [i] := by
  have hBare := t.isBare_unheard
  have hScene : t'.scene = t.scene := by
    rw [← scene_unheard, hUnheard, ← scene_unheard t]
    rfl
  constructor
  · rw [outlook, hUnheard, hBare.finish_stamp]
    exact hAttend.symm
  · rw [hScene, hUnheard, hBare.ahead_stamp, recital, hTold,
      Scene.next_self]
    simp [recital]

/- A connect that is refused changes nothing. -/
theorem unheard_run_connect
    (hPhase : t.client.link.phase.acceptsConnect = false) :
    (t.run (.act .connect)).unheard = t.unheard := by
  simp only [run, act, ifHeld, Client.connectRefusal?, hPhase]
  split <;> rfl

theorem follows_step_of_refused
    (hAgenda : t.agenda = .act .connect :: rest)
    (hPhase : t.client.link.phase.acceptsConnect = false) :
    t.Follows t.step [.operation (.act .connect)] := by
  have hStep : t.step.unheard = t.unheard := by
    rw [step_of_cons hAgenda, unheard_of_cons hAgenda rfl]
    exact unheard_run_connect hPhase
  have hLink : t.outlook.client.link = t.client.link := by
    rcases t.outlook_eq with ⟨_, _, hOutlook⟩
    rw [hOutlook]
    rfl
  have hLater :
      (t.outlook.run (.act .connect)).unheard = t.outlook := by
    rw [← hLink] at hPhase
    rw [unheard_run_connect hPhase, unheard_outlook]
  have hNothing : t.outlook.ahead = [] :=
    ahead_of_nil t.agenda_outlook
  constructor
  · show t.step.unheard.finish = Turn.finish (Turn.unheard _)
    rw [hStep, hLater, finish_of_agenda_eq_nil t.agenda_outlook]
    rfl
  · simp only [recital, told]
    rw [← scene_unheard (t.outlook.run _), hLater, hNothing,
      scene_eq_of_unheard hStep, hStep, Scene.next_self,
      Scene.next_self]
    simp

theorem follows_step_of_release
    (hAgenda : t.agenda = .act .release :: rest) :
    t.Follows t.step [.operation (.act .release)] := by
  have hStep :
      t.step.unheard =
        t.unheard.stamp t.now t.begun t.alive false := by
    rw [step_of_cons hAgenda, unheard_of_cons hAgenda rfl]
    rfl
  have hRun :
      (t.outlook.run (.act .release)).unheard =
        t.outlook.stamp t.now t.begun t.alive false := by
    have hGiven :
        (t.outlook.run (.act .release)).unheard =
          { t.outlook.unheard with held := false } := rfl
    rcases t.outlook_eq with ⟨_, _, hOutlook⟩
    rw [hGiven, unheard_outlook, hOutlook]
    rfl
  have hDone :
      (t.outlook.stamp t.now t.begun t.alive false).agenda = [] :=
    t.agenda_outlook
  apply follows_of_stamp hStep
  · show Turn.finish (Turn.unheard _) = _
    rw [hRun, finish_of_agenda_eq_nil hDone]
  · have hScene :
        (t.outlook.run (.act .release)).scene =
          t.outlook.scene := rfl
    simp only [told]
    rw [hScene, Scene.next_self, hRun, ahead_of_nil hDone]
    rfl

theorem follows_wait (t : Turn) (span : Span) :
    t.Follows (t.move (.wait span)) [.wait span] := by
  have hUnheard :
      (t.move (.wait span)).unheard =
        t.unheard.stamp (t.now + span) t.begun t.alive t.held :=
    rfl
  rcases t.outlook_eq with ⟨_, _, hOutlook⟩
  apply follows_of_stamp hUnheard
  · rw [hOutlook]
    rfl
  · rfl

theorem follows_begin (t : Turn) :
    t.Follows (t.move .begin) [.begin] := by
  have hUnheard :
      (t.move .begin).unheard =
        t.unheard.stamp t.now t.joined t.alive t.held := by
    simp only [move, beginAttempt, joined]
    cases t.client.link.transport with
    | none => rfl
    | some generation =>
        by_cases hAlive : t.alive = true
        · simp only [if_pos hAlive]
          rfl
        · simp only [if_neg hAlive]
          rfl
  apply follows_of_stamp hUnheard
  · rcases t.outlook_eq with ⟨_, _, hOutlook⟩
    rw [hOutlook]
    rfl
  · rfl

theorem follows_drop (t : Turn) :
    t.Follows (t.move .drop) (t.input .drop) := by
  by_cases hIdle : t.agenda.isEmpty = true
  · have hUnheard :
        (t.move .drop).unheard =
          t.unheard.stamp t.now t.begun (t.alive && t.held)
            t.held := by
      simp only [move, hIdle, Bool.true_and]
      cases hHeld : t.held <;>
        simp [hHeld, unheard, stamp, Client.recast]
    simp only [input, if_pos hIdle]
    apply follows_of_stamp hUnheard
    · rcases t.outlook_eq with ⟨_, _, hOutlook⟩
      rw [hOutlook]
      rfl
    · rfl
  · simp only [input, if_neg hIdle]
    apply follows_of_unheard
    simp [move, hIdle]

/- Something new to attend to changes nothing yet. -/
theorem follows_put
    (t : Turn)
    (hDuty : task.isDuty = false) :
    t.Follows (t.put task) [] := by
  apply follows_of_unheard
  unfold put
  split
  · exact unheard_of_cons rfl hDuty
  · rfl

end Turn

------------------------------------------------------------
-- Turns in Hand
------------------------------------------------------------

namespace Effect

variable {now : Time}
variable {begun : Array UInt64}
variable {c : Client}
variable {task : Task}
variable {o : Outcome}

theorem link_of_isDuty
    (hEffect : Effect now begun c task o)
    (hDuty : task.isDuty = true) :
    o.client.link = c.link := by
  cases hEffect with
  | nothing => rfl
  | delivery => rfl
  | countPing => rfl
  | giveUp _ _ _ _ _ _ _ hFails =>
      rcases cases_of_isFailedBy hFails with
        ⟨_, _, rfl, _⟩ | ⟨_, _, rfl, _⟩ <;> contradiction
  | retry _ _ _ _ _ _ _ hFails =>
      rcases cases_of_isFailedBy hFails with
        ⟨_, _, rfl, _⟩ | ⟨_, _, rfl, _⟩ <;> contradiction
  | _ => contradiction

/- What changes a link waits, unless it is a connect. -/
theorem waits_of_link_ne
    (hEffect : Effect now begun c task o)
    (hDuty : task.isDuty = false)
    (hWaits : task.waits = false) :
    o.owed = [] ∧
      (o.client.link = c.link ∨
        c.link.phase.acceptsConnect = true) := by
  cases hEffect with
  | nothing => exact ⟨rfl, Or.inl rfl⟩
  | connect hPhase =>
      rw [Client.connect_of_accepted now hPhase]
      exact ⟨rfl, Or.inr hPhase⟩
  | giveUp _ _ _ _ _ _ _ hFails =>
      rcases cases_of_isFailedBy hFails with
        ⟨_, _, rfl, _⟩ | ⟨_, _, rfl, _⟩ <;> contradiction
  | retry _ _ _ _ _ _ _ hFails =>
      rcases cases_of_isFailedBy hFails with
        ⟨_, _, rfl, _⟩ | ⟨_, _, rfl, _⟩ <;> contradiction
  | _ => contradiction

/- What is left to do after a call is about an open link. -/
theorem opened_of_owes
    (hEffect : Effect now begun c task o)
    (hBefore : task.isDuty = true → c.link.phase = .opened)
    {d : Duty}
    (hOwes : d ∈ o.owed)
    (hCall : (Task.owe d).isCall = false) :
    o.client.link.phase = .opened := by
  cases hEffect with
  | opening => rfl
  | event _ _ _ _ _ hPhase => exact hPhase
  | delivery => exact hBefore rfl
  | connect hPhase =>
      rw [Client.connect_of_accepted now hPhase] at hOwes
      contradiction
  | nothing => contradiction
  | detach => contradiction
  | countPing => contradiction
  | _ =>
      rcases List.mem_singleton.mp hOwes with rfl
      contradiction

end Effect

namespace Turn

/-
  Calls come first, duties are where they belong, and what is
  left to do after a call is about an open connection.
-/
structure InHand (t : Turn) : Prop where
  orderly : t.Orderly
  guarded : t.Guarded
  opened :
    ∀ task ∈ t.agenda, task.isDuty = true →
      task.isCall = false → t.client.link.phase = .opened

namespace InHand

variable {t : Turn}
variable {task : Task}
variable {rest : List Task}

theorem put
    (hInHand : t.InHand)
    (hDuty : task.isDuty = false)
    (hOrderly : (t.put task).Orderly) :
    (t.put task).InHand := by
  refine ⟨hOrderly, guarded_put hInHand.guarded task, ?_⟩
  unfold Turn.put
  split
  · intro other hMember hOwed hCall
    rcases List.mem_cons.mp hMember with rfl | hRest
    · rw [hDuty] at hOwed
      contradiction
    · exact hInHand.opened other hRest hOwed hCall
  · exact hInHand.opened

/- New entries that are no duties change nothing about it. -/
theorem opened_of_append
    (hInHand : t.InHand)
    {front back : List Task}
    (hFront : ∀ task ∈ front, task.isDuty = false)
    (hBack : back ⊆ t.agenda) :
    ∀ task ∈ front ++ back,
      task.isDuty = true → task.isCall = false →
        t.client.link.phase = .opened := by
  intro task hMember hOwed
  rcases List.mem_append.mp hMember with hNew | hOld
  · rw [hFront task hNew] at hOwed
    contradiction
  · exact hInHand.opened task (hBack hOld) hOwed

theorem step_of_cons
    (hInHand : t.InHand)
    (hAgenda : t.agenda = task :: rest)
    (hGate : task.waits = true → Task.duties rest = []) :
    t.step.InHand := by
  refine
    ⟨orderly_move hInHand.orderly .step,
      guarded_move hInHand.guarded .step, ?_⟩
  have hChange := change_run hAgenda
  rw [← Turn.step_of_cons hAgenda] at hChange
  cases hChange with
  | pass hClient _ hSame _ =>
      rw [hSame, hClient]
      exact hInHand.opened
  | begin _ _ _ _ hClient _ hSame _ =>
      rw [hSame, hClient]
      exact hInHand.opened
  | aside front back _ _ hUntouched hSame hFront hBack _ _ =>
      rw [hSame, hUntouched.link]
      exact hInHand.opened_of_append hFront hBack.subset
  | hand _ _ front back hCalled hUntouched hSame hFront _ =>
      rw [hSame, hUntouched.link]
      apply hInHand.opened_of_append hFront
      rw [hCalled]
      exact List.subset_cons_self _ back
  | take task' back o hTask hCall hEffect hClient _ hSame _ =>
      rw [hAgenda, List.cons.injEq] at hTask
      rcases hTask with ⟨rfl, rfl⟩
      have hFirst : task ∈ t.agenda := by
        rw [hAgenda]
        exact List.mem_cons_self
      rw [hSame, hClient]
      intro other hMember hOwed hOther
      rcases List.mem_append.mp hMember with hNew | hOld
      · rcases List.mem_map.mp hNew with ⟨d, hOwes, rfl⟩
        apply hEffect.opened_of_owes _ hOwes hOther
        intro hDuty
        exact hInHand.opened task hFirst hDuty hCall
      · have hPhase : t.client.link.phase = .opened := by
          apply hInHand.opened other _ hOwed hOther
          rw [hAgenda]
          exact List.mem_cons_of_mem _ hOld
        cases hDuty : task.isDuty with
        | true => rw [hEffect.link_of_isDuty hDuty, hPhase]
        | false =>
            cases hWaits : task.waits with
            | true =>
                have hNone := hGate hWaits
                rw [Task.duties,
                  List.filter_eq_nil_iff] at hNone
                exact absurd hOwed (hNone other hOld)
            | false =>
                rcases hEffect.waits_of_link_ne hDuty hWaits with
                  ⟨_, hLink | hAccepts⟩
                · rw [hLink, hPhase]
                · rw [hPhase] at hAccepts
                  contradiction

/- Every move keeps a turn in hand. -/
theorem move
    (hInHand : t.InHand)
    {m : Move}
    (hGate : t.passesGate m = true) :
    (t.move m).InHand := by
  have hOrderly := orderly_move hInHand.orderly m
  cases m with
  | step =>
      cases hAgenda : t.agenda with
      | nil =>
          rw [Turn.move, step_idle hAgenda]
          exact hInHand
      | cons task rest =>
          apply hInHand.step_of_cons hAgenda
          intro hWaits
          simpa [passesGate, hAgenda, hWaits] using hGate
  | act a => exact hInHand.put rfl hOrderly
  | timer generation =>
      simp only [Turn.move] at hOrderly ⊢
      split at hOrderly
      · next hAlive =>
          rw [if_pos hAlive]
          exact hInHand.put rfl hOrderly
      · next hAlive =>
          rw [if_neg hAlive]
          exact hInHand
  | alarm generation token =>
      simp only [Turn.move] at hOrderly ⊢
      split at hOrderly
      · next hAlive =>
          rw [if_pos hAlive]
          exact hInHand.put rfl hOrderly
      · next hAlive =>
          rw [if_neg hAlive]
          exact hInHand
  | wait span =>
      exact ⟨hOrderly, hInHand.guarded, hInHand.opened⟩
  | begin =>
      have hGuarded := guarded_move hInHand.guarded .begin
      refine ⟨hOrderly, hGuarded, ?_⟩
      simp only [Turn.move, beginAttempt]
      split
      · split <;> exact hInHand.opened
      · exact hInHand.opened
  | drop =>
      have hGuarded := guarded_move hInHand.guarded .drop
      refine ⟨hOrderly, hGuarded, ?_⟩
      simp only [Turn.move]
      split <;> exact hInHand.opened

/- Then a connect in the middle of something is refused. -/
theorem acceptsConnect_eq_false
    (hInHand : t.InHand)
    (hAgenda : t.agenda = task :: rest)
    (hOwed : Task.duties rest ≠ []) :
    t.client.link.phase.acceptsConnect = false := by
  rcases List.exists_mem_of_ne_nil _ hOwed with
    ⟨other, hMember⟩
  rcases List.mem_filter.mp hMember with ⟨hRest, hDuty⟩
  have hCall := hInHand.orderly.isCall_of_cons hAgenda other hRest
  have hBehind : other ∈ t.agenda := by
    rw [hAgenda]
    exact List.mem_cons_of_mem _ hRest
  rw [hInHand.opened other hBehind hDuty hCall]
  rfl

theorem follows_step
    (hInHand : t.InHand)
    (hAgenda : t.agenda = task :: rest)
    (hGate : task.waits = true → Task.duties rest = []) :
    t.Follows t.step
      (if task.isOperation then [.operation task] else []) := by
  cases hOperation : task.isOperation with
  | false =>
      cases task with
      | owe d => exact follows_step_of_owe hAgenda
      | fireTimer => contradiction
      | fireAlarm => contradiction
      | _ =>
          exact
            follows_of_unheard
              (unheard_step_of_aside hInHand.guarded hAgenda rfl
                hOperation)
  | true =>
      by_cases hDone : Task.duties rest = []
      · exact
          follows_step_of_isOperation hAgenda hOperation hDone
      · have hRefused :=
          hInHand.acceptsConnect_eq_false hAgenda hDone
        have hAnytime : task.waits = false := by
          rw [Bool.eq_false_iff]
          exact fun hWaits => hDone (hGate hWaits)
        cases task with
        | act a =>
            cases a with
            | connect =>
                exact follows_step_of_refused hAgenda hRefused
            | release => exact follows_step_of_release hAgenda
            | _ => contradiction
        | _ => contradiction

/- What a move leads to depends on its inputs alone. -/
theorem follows
    (hInHand : t.InHand)
    {m : Move}
    (hGate : t.passesGate m = true) :
    t.Follows (t.move m) (t.input m) := by
  cases m with
  | step =>
      cases hAgenda : t.agenda with
      | nil =>
          rw [Turn.move, step_idle hAgenda]
          simp only [input, hAgenda]
          exact follows_of_unheard rfl
      | cons task rest =>
          simp only [input, hAgenda]
          apply hInHand.follows_step hAgenda
          intro hWaits
          simpa [passesGate, hAgenda, hWaits] using hGate
  | act a => exact t.follows_put rfl
  | timer generation =>
      simp only [Turn.move]
      split
      · exact t.follows_put rfl
      · exact follows_of_unheard rfl
  | alarm generation token =>
      simp only [Turn.move]
      split
      · exact t.follows_put rfl
      · exact follows_of_unheard rfl
  | wait span => exact t.follows_wait span
  | begin => exact t.follows_begin
  | drop => exact t.follows_drop

/- And so does what a run leads to. -/
theorem follow
    (hInHand : t.InHand)
    (moves : List Move)
    (hGated : t.isGated moves = true) :
    (t.follow moves).outlook =
        t.outlook.attendAll (t.inputs moves) ∧
      t.trail moves ++ (t.follow moves).unheard.ahead =
        t.unheard.ahead ++ t.outlook.recital (t.inputs moves) := by
  induction moves generalizing t with
  | nil => simp [inputs, trail, attendAll, recital]
  | cons m moves ih =>
      rw [isGated, Bool.and_eq_true] at hGated
      have hFirst := hInHand.follows hGated.1
      rcases ih (hInHand.move hGated.1) hGated.2 with
        ⟨hOutlook, hScenes⟩
      constructor
      · rw [follow_cons, hOutlook, hFirst.outlook, inputs,
          attendAll, attendAll, attendAll, List.foldl_append]
      · rw [follow_cons, trail, List.append_assoc, hScenes,
          ← List.append_assoc, hFirst.scenes, inputs,
          recital_append, ← hFirst.outlook, List.append_assoc]

end InHand

theorem inHand_equipped
    (config : Config)
    (handlers : Registry Handler) :
    (equipped config handlers).InHand where
  orderly := orderly_fresh config
  guarded := .nil
  opened := by
    intro task hMember
    contradiction

end Turn

end EventFeed

------------------------------------------------------------
-- Observers
------------------------------------------------------------

namespace EventFeed

namespace Turn

/-
  Two turns concur in all that is not up to the handlers: the
  connection, the counters, the attempts that have begun, the
  calls with their arguments, and the log but for its errors.
-/
structure Concurs (t₁ t₂ : Turn) : Prop where
  now : t₁.now = t₂.now
  alive : t₁.alive = t₂.alive
  held : t₁.held = t₂.held
  begun : t₁.begun = t₂.begun
  link : t₁.client.link = t₂.client.link
  tally : t₁.client.tally = t₂.client.tally
  emissions : t₁.emissions = t₂.emissions
  log :
    t₁.log.filter (fun line => line.level != .error) =
      t₂.log.filter fun line => line.level != .error

theorem concurs_of_unheard
    {t₁ t₂ : Turn}
    (hUnheard : t₁.unheard = t₂.unheard) :
    t₁.Concurs t₂ where
  now := (congrArg Turn.now hUnheard :)
  alive := (congrArg Turn.alive hUnheard :)
  held := (congrArg Turn.held hUnheard :)
  begun := (congrArg Turn.begun hUnheard :)
  link := (congrArg (fun t => t.client.link) hUnheard :)
  tally := (congrArg (fun t => t.client.tally) hUnheard :)
  emissions := by
    have hScene := congrArg (fun t => t.scene.calls) hUnheard
    simp only [scene_unheard] at hScene
    exact hScene
  log := by
    rw [← filter_log_unheard, ← filter_log_unheard, hUnheard]

/- What was called so far is called in the end. -/
theorem emission_outlook
    {t : Turn}
    {k : Nat}
    {c : Callback}
    {heard : Bool}
    (hHearing : t.hearings[k]? = some (c, heard)) :
    t.outlook.emissions[k]? = some c := by
  have hSoFar : t.emissions[k]? = some c := by
    simp [emissions, hHearing]
  rcases List.getElem?_eq_some_iff.mp hSoFar with ⟨hLt, hGet⟩
  rw [← hGet]
  exact
    List.prefix_iff_getElem?.mp t.emissions_prefix_outlook k hLt

/-
  Two runs with the same inputs come to the same outlook
  through the same scenes, counting those that are still
  ahead, whichever handlers there are at any time and whatever
  becomes of them, as long as these make no calls of the
  client that are not among the inputs.  Whoever hears a call
  in both runs hears the same.  A handler that fails costs one
  line of the log.  As soon as nothing is owed in either run,
  they have passed through the same scenes and concur.
-/
theorem observed_follow
    (config : Config)
    (handlers₁ handlers₂ : Registry Handler)
    (moves₁ moves₂ : List Move)
    {t₁ t₂ : Turn}
    (hReached₁ : t₁ = (equipped config handlers₁).follow moves₁)
    (hReached₂ : t₂ = (equipped config handlers₂).follow moves₂)
    (hGated₁ :
      (equipped config handlers₁).isGated moves₁ = true)
    (hGated₂ :
      (equipped config handlers₂).isGated moves₂ = true)
    (hInputs :
      (equipped config handlers₁).inputs moves₁ =
        (equipped config handlers₂).inputs moves₂) :
    t₁.outlook = t₂.outlook ∧
      (equipped config handlers₁).trail moves₁ ++
          t₁.unheard.ahead =
        (equipped config handlers₂).trail moves₂ ++
          t₂.unheard.ahead ∧
      (∀ (k : Nat) (c₁ c₂ : Callback),
        t₁.hearings[k]? = some (c₁, true) →
          t₂.hearings[k]? = some (c₂, true) → c₁ = c₂) ∧
      t₁.log.filter (fun line => line.level == .error) =
        ((equipped config handlers₁).panics moves₁).map
          (fun slot => (Remark.panicked slot).line) ∧
      (Task.duties t₁.agenda = [] →
        Task.duties t₂.agenda = [] →
          (equipped config handlers₁).trail moves₁ =
              (equipped config handlers₂).trail moves₂ ∧
            t₁.Concurs t₂) := by
  rcases (inHand_equipped config handlers₁).follow moves₁ hGated₁
    with ⟨hOutlook₁, hScenes₁⟩
  rcases (inHand_equipped config handlers₂).follow moves₂ hGated₂
    with ⟨hOutlook₂, hScenes₂⟩
  rw [← hReached₁] at hOutlook₁ hScenes₁
  rw [← hReached₂] at hOutlook₂ hScenes₂
  have hStart :
      (equipped config handlers₁).unheard =
        (equipped config handlers₂).unheard := rfl
  have hStart' :
      (equipped config handlers₁).outlook =
        (equipped config handlers₂).outlook := by
    rw [outlook, hStart, outlook]
  have hOutlook : t₁.outlook = t₂.outlook := by
    rw [hOutlook₁, hStart', hInputs, ← hOutlook₂]
  have hScenes :
      (equipped config handlers₁).trail moves₁ ++
          t₁.unheard.ahead =
        (equipped config handlers₂).trail moves₂ ++
          t₂.unheard.ahead := by
    rw [hScenes₁, hScenes₂, hStart, hStart', hInputs]
  refine ⟨hOutlook, hScenes, ?_, ?_, ?_⟩
  · intro k c₁ c₂ hFirst hSecond
    have hCall := emission_outlook hFirst
    rw [hOutlook, emission_outlook hSecond] at hCall
    exact (Option.some.inj hCall).symm
  · rw [filter_log_error, hReached₁, mishaps_follow]
    rfl
  · intro hDone₁ hDone₂
    rw [ahead_of_nil hDone₁, ahead_of_nil hDone₂,
      List.append_nil, List.append_nil] at hScenes
    rw [outlook_of_duties_eq_nil hDone₁,
      outlook_of_duties_eq_nil hDone₂] at hOutlook
    exact ⟨hScenes, concurs_of_unheard hOutlook⟩

/-
  The first run has no handlers at all.  In the second one the
  handler of openings puts in a handler of pings and fails, and
  time passes before the ping is delivered.
-/
theorem observed_follow_past_failure :
    ∃ handlers : Registry Handler,
      ∃ moves₁ moves₂ : List Move,
        (equipped default handlers).panics moves₂ = [.opened] ∧
          ((equipped default handlers).follow
              moves₂).hearings.map Prod.snd =
            [true, true, false] ∧
          ((equipped default Registry.empty).follow
              moves₁).hearings.map Prod.snd =
            [false, false, false] ∧
          (equipped default handlers).trail moves₂ =
            (equipped default Registry.empty).trail moves₁ := by
  rcases
    observed_follow default
      (Registry.empty.register .opened
        [[.register .ping Handler.listener, .panic, .idle]])
      Registry.empty
      [.act .connect, .step, .begin,
        .act (.report 0 (.event ⟨"ping", "", none⟩)), .step,
        .step, .step, .step, .step, .wait 5, .step, .step,
        .step, .step, .act .disconnect, .step, .step]
      [.act .connect, .step, .begin,
        .act (.report 0 (.event ⟨"ping", "", none⟩)), .step,
        .step, .step, .step, .step, .wait 5, .act .disconnect,
        .step, .step]
      rfl rfl (by decide) (by decide)
      -- the inputs of both runs, written out
      (Eq.trans
        (b := [
          .operation (.act .connect), .begin,
          .operation
            (.act (.report 0 (.event ⟨"ping", "", none⟩))),
          .wait 5, .operation (.act .disconnect)])
        rfl rfl) with
    ⟨-, -, -, -, hSettled⟩
  have hTrail := (hSettled (by decide) (by decide)).1
  exact
    ⟨_, _, _, by decide, by decide, by decide, hTrail⟩

end Turn

end EventFeed
