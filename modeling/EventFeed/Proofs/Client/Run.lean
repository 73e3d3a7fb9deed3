import EventFeed.Proofs.Client.Effect

/-
  This file defines runs of a client: operations that come
  one at a time, in any order, and from within handlers.

  A run is a list of moves.  Work that was begun goes on one
  entry of the agenda at a time; and whenever no duty stands
  first, something may come from outside: an action of the
  program or of the handler that is running, a report of any
  attempt that has begun, or a timer, be it current or long
  out of date.  Every state of a run is one in which nobody
  holds the client.

  Operations come one at a time: what an operation owes is
  seen to before the next one begins, unless a handler that it
  calls begins it.  So a connect that another thread makes
  when an operation has let go of the client, but has not yet
  made the call that it owes, is no part of a run.

  Key definitions include:
    * `Turn.Move`
    * `Turn.fresh`
    * `Turn.move`
    * `Turn.follow`
    * `Turn.Change`
    * `Turn.Orderly`

  Key results include:
    * `Turn.change_move`
    * `Turn.follow_induction`
    * `Turn.orderly_follow`
-/

------------------------------------------------------------
-- Moves
------------------------------------------------------------

namespace EventFeed

namespace Turn

/- What can happen to a turn. -/
inductive Move
  /- the first entry of the agenda is seen to -/
  | step
  /- the program or a running handler does something -/
  | act (a : Action)
  /- the reconnect timer of a generation goes off -/
  | timer (generation : UInt64)
  /- an alarm of the watch goes off -/
  | alarm (generation token : UInt64)
  /- time passes -/
  | wait (span : Span)
  /- the attempt whose task is held begins -/
  | begin
  /- the client ends once nobody has a handle on it -/
  | drop
deriving Inhabited, Repr

/- The client of a configuration, with nothing done yet. -/
def fresh (config : Config) : Turn where
  now := 0
  begun := #[]
  alive := true
  held := true
  client := Client.new config
  agenda := []
  answers := []
  seen := []

/- Whether no duty stands first on the agenda. -/
def isFree (t : Turn) : Bool :=
  match t.agenda with
  | .owe _ :: _ => false
  | _ => true

/-
  Put an entry in front of the agenda, if it is free.  While a
  duty stands first nothing comes from outside, for operations
  come one at a time.
-/
def put (t : Turn) (task : Task) : Turn :=
  if t.isFree then
    { t with agenda := task :: t.agenda }
  else
    t

/- Let the attempt begin whose task is held. -/
def beginAttempt (t : Turn) : Turn :=
  match t.client.link.transport with
  | some generation =>
      if t.alive then
        { t with
          begun := t.begun.push generation
          seen :=
            .began t.client.config.transport.kind
              t.client.config.url :: t.seen }
      else
        t
  | none => t

/- Make a move; one that is not possible changes nothing. -/
def move (t : Turn) : Move → Turn
  | .step => t.step
  | .act a => t.put (.act a)
  | .timer generation =>
      if t.alive then t.put (.fireTimer generation) else t
  | .alarm generation token =>
      if t.alive then
        t.put (.fireAlarm generation token)
      else
        t
  | .wait span => { t with now := t.now + span }
  | .begin => t.beginAttempt
  | .drop =>
      if t.agenda.isEmpty && !t.held then
        { t with alive := false }
      else
        t

/- Make moves one after the other. -/
def follow (t : Turn) (moves : List Move) : Turn :=
  moves.foldl move t

@[simp]
theorem follow_nil (t : Turn) : t.follow [] = t :=
  rfl

@[simp]
theorem follow_cons
    (t : Turn)
    (m : Move)
    (moves : List Move) :
    t.follow (m :: moves) = (t.move m).follow moves :=
  rfl

theorem follow_append
    (t : Turn)
    (moves later : List Move) :
    t.follow (moves ++ later) =
      (t.follow moves).follow later :=
  List.foldl_append

/- What every move keeps holds of every run. -/
theorem follow_induction
    {P : Turn → Prop}
    (hMove : ∀ t m, P t → P (t.move m))
    {t : Turn}
    (hStart : P t)
    (moves : List Move) :
    P (t.follow moves) := by
  induction moves generalizing t with
  | nil =>
      rw [follow_nil]
      exact hStart
  | cons m moves ih =>
      rw [follow_cons]
      exact ih (hMove t m hStart)

end Turn

end EventFeed

------------------------------------------------------------
-- Changes
------------------------------------------------------------

namespace EventFeed

/- Whether the entry is a duty. -/
def Task.isDuty : Task → Bool
  | .owe _ => true
  | _ => false

/- An observation that says nothing about the connection. -/
def Observation.isAside : Observation → Bool
  | .did _ _ => true
  | .remark (.panicked _) => true
  | _ => false

namespace Turn

/- The connection and what is counted of it are the same. -/
structure Untouched (t t' : Turn) : Prop where
  config : t'.client.config = t.client.config
  link : t'.client.link = t.client.link
  tally : t'.client.tally = t.client.tally
  begun : t'.begun = t.begun

/-
  How a move changes a turn, as far as the client, the
  attempts that have begun, the agenda and what was observed
  are concerned.
-/
inductive Change (t : Turn) : Turn → Prop
  /- nothing of the kind -/
  | pass
      {t' : Turn}
      (hClient : t'.client = t.client)
      (hBegun : t'.begun = t.begun)
      (hAgenda : t'.agenda = t.agenda)
      (hSeen : t'.seen = t.seen) :
      Change t t'
  /- an attempt began -/
  | begin
      {t' : Turn}
      (generation : UInt64)
      (kind : Transport.Kind)
      (url : Url)
      (hHeld : t.client.link.transport = some generation)
      (hClient : t'.client = t.client)
      (hBegun : t'.begun = t.begun.push generation)
      (hAgenda : t'.agenda = t.agenda)
      (hSeen : t'.seen = .began kind url :: t.seen) :
      Change t t'
  /- the agenda moved on without touching the connection -/
  | aside
      {t' : Turn}
      (front back : List Task)
      (new : List Observation)
      (hFree : t.isFree = true)
      (hUntouched : t.Untouched t')
      (hAgenda : t'.agenda = front ++ back)
      (hFront : ∀ task ∈ front, task.isDuty = false)
      (hBack : back <:+ t.agenda)
      (hSeen : t'.seen = new ++ t.seen)
      (hNew : ∀ o ∈ new, o.isAside = true) :
      Change t t'
  /- a call was handed over -/
  | hand
      {t' : Turn}
      (c : Callback)
      (heard : Bool)
      (front back : List Task)
      (hCall : t.agenda = .owe (.call c) :: back)
      (hUntouched : t.Untouched t')
      (hAgenda : t'.agenda = front ++ back)
      (hFront : ∀ task ∈ front, task.isDuty = false)
      (hSeen : t'.seen = .call c heard :: t.seen) :
      Change t t'
  /- an operation was performed on the client -/
  | take
      {t' : Turn}
      (task : Task)
      (back : List Task)
      (o : Outcome)
      (hTask : t.agenda = task :: back)
      (hCall : task.isCall = false)
      (hEffect : Effect t.now t.begun t.client task o)
      (hClient : t'.client = o.client)
      (hBegun : t'.begun = t.begun)
      (hAgenda : t'.agenda = o.owed.map Task.owe ++ back)
      (hSeen :
        t'.seen =
          (o.remarks.map Observation.remark).reverse ++ t.seen) :
      Change t t'

variable {t : Turn}

/- A turn whose next entry is no duty is free. -/
theorem isFree_of_agenda
    {task : Task}
    {rest : List Task}
    (hTask : t.agenda = task :: rest)
    (hDuty : task.isDuty = false) :
    t.isFree = true := by
  unfold isFree
  rw [hTask]
  cases task <;> first | rfl | contradiction

/- An entry was seen to that is all about the agenda. -/
theorem change_onward
    {t' : Turn}
    {task : Task}
    {rest : List Task}
    (hTask : t.agenda = task :: rest)
    (hDuty : task.isDuty = false)
    (hUntouched : t.Untouched t')
    (hAgenda : t'.agenda = rest)
    (hSeen :
      t'.seen = t.seen ∨
        ∃ a answer, t'.seen = .did a answer :: t.seen) :
    t.Change t' := by
  have hFree : t.isFree = true := isFree_of_agenda hTask hDuty
  have hBack : rest <:+ t.agenda := by
    rw [hTask]
    exact List.suffix_cons task rest
  rcases hSeen with hSeen | ⟨a, answer, hSeen⟩
  · exact
      .aside [] rest [] hFree hUntouched hAgenda (by simp)
        hBack hSeen (by simp)
  · exact
      .aside [] rest [.did a answer] hFree hUntouched hAgenda
        (by simp) hBack hSeen (by simp [Observation.isAside])

/- A task led to an operation on the client. -/
theorem change_take
    {t' : Turn}
    {task : Task}
    {rest : List Task}
    {o : Outcome}
    (hTask : t.agenda = task :: rest)
    (hCall : task.isCall = false)
    (hEffect : Effect t.now t.begun t.client task o)
    (hTake : ∃ answers,
      t' =
        { { t with agenda := rest }.take o with
          answers := answers }) :
    t.Change t' := by
  rcases hTake with ⟨answers, rfl⟩
  exact .take task rest o hTask hCall hEffect rfl rfl rfl rfl

------------------------------------------------------------
-- Actions Change Turns
------------------------------------------------------------

/- A question leaves everything but the answers alone. -/
theorem answer_eq (t : Turn) (q : Query) :
    ∃ answers, t.answer q = { t with answers := answers } := by
  cases q with
  | isLive attempt =>
      simp only [answer, withAttempt]
      split <;> exact ⟨_, rfl⟩
  | describeAttempt attempt =>
      simp only [answer, withAttempt]
      split <;> exact ⟨_, rfl⟩
  | isRegistered slot =>
      simp only [answer, ifHeld]
      split <;> exact ⟨_, rfl⟩
  | describeHandlers =>
      simp only [answer, ifHeld]
      split <;> exact ⟨_, rfl⟩
  | describeClient =>
      simp only [answer, ifHeld]
      split <;> exact ⟨_, rfl⟩
  | isAlive => exact ⟨_, rfl⟩

/- A panic cuts the agenda down to one of its ends. -/
theorem change_unwind
    {task : Task}
    {rest : List Task}
    (hTask : t.agenda = task :: rest)
    (hDuty : task.isDuty = false) :
    t.Change { t with agenda := rest }.unwind := by
  have hFree : t.isFree = true := isFree_of_agenda hTask hDuty
  have hRest : rest <:+ t.agenda := by
    rw [hTask]
    exact List.suffix_cons task rest
  unfold unwind
  split
  · next slot answers below hBelow =>
      have hDrop :
          (.leave slot answers :: below) <:+ rest := by
        rw [← hBelow]
        exact List.dropWhile_suffix _
      have hBack : below <:+ t.agenda :=
        (List.suffix_cons _ below).trans (hDrop.trans hRest)
      exact
        .aside [] below [.remark (.panicked slot)] hFree
          ⟨rfl, rfl, rfl, rfl⟩ rfl (by simp) hBack rfl
          (by simp [Observation.isAside])
  · exact
      .aside [] [] [] hFree ⟨rfl, rfl, rfl, rfl⟩ rfl (by simp)
        (List.nil_suffix) rfl (by simp)

theorem change_act
    {a : Action}
    {rest : List Task}
    (hTask : t.agenda = .act a :: rest) :
    t.Change ({ t with agenda := rest }.act a) := by
  -- most actions leave an answer and nothing else
  have hOnward :
      ∀ t' : Turn, t.Untouched t' → t'.agenda = rest →
        t'.seen = t.seen → t.Change t' :=
    fun t' hUntouched hAgenda hSeen =>
      change_onward hTask rfl hUntouched hAgenda
        (Or.inl hSeen)
  cases a with
  | connect =>
      simp only [act, ifHeld]
      split
      · split
        · exact hOnward _ ⟨rfl, rfl, rfl, rfl⟩ rfl rfl
        · next hAccepted =>
            exact
              change_take hTask rfl
                (Effect.of_connect hAccepted) ⟨_, rfl⟩
      · exact hOnward _ ⟨rfl, rfl, rfl, rfl⟩ rfl rfl
  | disconnect =>
      simp only [act, ifHeld]
      split
      · exact change_take hTask rfl .disconnect ⟨_, rfl⟩
      · exact hOnward _ ⟨rfl, rfl, rfl, rfl⟩ rfl rfl
  | report attempt r =>
      simp only [act, withAttempt]
      split
      · next generation hBegun =>
          split
          · exact
              change_take hTask rfl (Effect.of_report hBegun r)
                ⟨_, rfl⟩
          · exact hOnward _ ⟨rfl, rfl, rfl, rfl⟩ rfl rfl
      · exact hOnward _ ⟨rfl, rfl, rfl, rfl⟩ rfl rfl
  | register slot reactions =>
      simp only [act, ifHeld]
      split <;> exact hOnward _ ⟨rfl, rfl, rfl, rfl⟩ rfl rfl
  | unregister slot =>
      simp only [act, ifHeld]
      split <;> exact hOnward _ ⟨rfl, rfl, rfl, rfl⟩ rfl rfl
  | ask q =>
      rcases answer_eq { t with agenda := rest } q with
        ⟨answers, hAnswer⟩
      rw [act, hAnswer]
      exact hOnward _ ⟨rfl, rfl, rfl, rfl⟩ rfl rfl
  | release => exact hOnward _ ⟨rfl, rfl, rfl, rfl⟩ rfl rfl
  | panic => exact change_unwind hTask rfl
  | batch actions =>
      have hBack : rest <:+ t.agenda := by
        rw [hTask]
        exact List.suffix_cons _ rest
      refine
        .aside (actions.map Task.act ++ [.gather actions.length])
          rest [] (isFree_of_agenda hTask rfl)
          ⟨rfl, rfl, rfl, rfl⟩ (by simp [act]) ?_ hBack rfl
          (by simp)
      intro task hMember
      simp only [List.mem_append, List.mem_map,
        List.mem_singleton] at hMember
      rcases hMember with ⟨_, _, rfl⟩ | rfl <;> rfl
  | idle => exact hOnward _ ⟨rfl, rfl, rfl, rfl⟩ rfl rfl

/- A call puts the reaction of its handler on the agenda. -/
theorem change_handCall
    {c : Callback}
    {rest : List Task}
    (hTask : t.agenda = .owe (.call c) :: rest) :
    t.Change ({ t with agenda := rest }.handCall c) := by
  unfold handCall
  split
  · exact
      .hand c false [] rest hTask ⟨rfl, rfl, rfl, rfl⟩ rfl
        (by simp) rfl
  · next handler hHandler =>
      refine
        .hand c true
          ((handler.headD []).flatMap
              (fun a => [.act a, .note a]) ++
            [.leave c.slot t.answers])
          rest hTask ⟨rfl, rfl, rfl, rfl⟩ (by simp) ?_ rfl
      intro task hMember
      simp only [List.mem_append, List.mem_flatMap,
        List.mem_cons, List.not_mem_nil, or_false] at hMember
      rcases hMember with ⟨_, _, rfl | rfl⟩ | rfl <;> rfl

------------------------------------------------------------
-- Moves Change Turns
------------------------------------------------------------

theorem change_run
    {task : Task}
    {rest : List Task}
    (hTask : t.agenda = task :: rest) :
    t.Change ({ t with agenda := rest }.run task) := by
  cases task with
  | act a => exact change_act hTask
  | note a =>
      exact
        change_onward hTask rfl ⟨rfl, rfl, rfl, rfl⟩ rfl
          (Or.inr ⟨_, _, rfl⟩)
  | gather n =>
      exact
        change_onward hTask rfl ⟨rfl, rfl, rfl, rfl⟩ rfl
          (Or.inl rfl)
  | owe d =>
      cases d with
      | call c => exact change_handCall hTask
      | deliver generation e =>
          exact
            change_take hTask rfl (Effect.of_perform rfl)
              ⟨_, rfl⟩
      | countPing =>
          exact
            change_take hTask rfl (Effect.of_perform rfl)
              ⟨_, rfl⟩
  | leave slot answers =>
      exact
        change_onward hTask rfl ⟨rfl, rfl, rfl, rfl⟩ rfl
          (Or.inl rfl)
  | fireTimer generation =>
      exact
        change_take hTask rfl (Effect.of_fireTimer generation)
          ⟨_, rfl⟩
  | fireAlarm generation token =>
      exact
        change_take hTask rfl
          (Effect.of_fireAlarm generation token) ⟨_, rfl⟩

/- Putting an entry in front changes nothing but the agenda. -/
theorem change_put
    (t : Turn)
    {task : Task}
    (hDuty : task.isDuty = false) :
    t.Change (t.put task) := by
  unfold put
  split
  · next hFree =>
      exact
        .aside [task] t.agenda [] hFree ⟨rfl, rfl, rfl, rfl⟩
          rfl (by simpa using hDuty) (List.suffix_refl _) rfl
          (by simp)
  · exact .pass rfl rfl rfl rfl

theorem change_beginAttempt (t : Turn) :
    t.Change t.beginAttempt := by
  unfold beginAttempt
  split
  · next generation hHeld =>
      split
      · exact .begin generation _ _ hHeld rfl rfl rfl rfl
      · exact .pass rfl rfl rfl rfl
  · exact .pass rfl rfl rfl rfl

/- Every move is one of the changes. -/
theorem change_move (t : Turn) (m : Move) :
    t.Change (t.move m) := by
  cases m with
  | step =>
      simp only [move, step]
      split
      · exact .pass rfl rfl rfl rfl
      · next task rest hTask => exact change_run hTask
  | act a => exact t.change_put rfl
  | timer generation =>
      simp only [move]
      split
      · exact t.change_put rfl
      · exact .pass rfl rfl rfl rfl
  | alarm generation token =>
      simp only [move]
      split
      · exact t.change_put rfl
      · exact .pass rfl rfl rfl rfl
  | wait span => exact .pass rfl rfl rfl rfl
  | begin => exact t.change_beginAttempt
  | drop =>
      simp only [move]
      split <;> exact .pass rfl rfl rfl rfl

/- No attempt begins while an entry is seen to. -/
theorem begun_act (t : Turn) (a : Action) :
    (t.act a).begun = t.begun := by
  cases a with
  | connect =>
      simp only [act, ifHeld]
      split
      · split <;> rfl
      · rfl
  | disconnect =>
      simp only [act, ifHeld]
      split <;> rfl
  | report attempt r =>
      simp only [act, withAttempt]
      split
      · split <;> rfl
      · rfl
  | register slot reactions =>
      simp only [act, ifHeld]
      split <;> rfl
  | unregister slot =>
      simp only [act, ifHeld]
      split <;> rfl
  | ask q =>
      rcases answer_eq t q with ⟨answers, hAnswer⟩
      rw [act, hAnswer]
  | panic =>
      simp only [act, unwind]
      split <;> rfl
  | release => rfl
  | batch actions => rfl
  | idle => rfl

theorem begun_step (t : Turn) : t.step.begun = t.begun := by
  unfold step
  split
  · rfl
  · next task rest hTask =>
      cases task with
      | act a => exact begun_act { t with agenda := rest } a
      | owe d =>
          cases d with
          | call c =>
              simp only [run, handCall]
              split <;> rfl
          | _ => rfl
      | _ => rfl

------------------------------------------------------------
-- Order of the Agenda
------------------------------------------------------------

/-
  No call waits behind another entry: what is owed to a
  handler is handed over before anything else happens.
-/
def Orderly (t : Turn) : Prop :=
  ∀ task ∈ t.agenda.tail, task.isCall = false

theorem Orderly.isCall_of_cons
    (hOrderly : t.Orderly)
    {task : Task}
    {rest : List Task}
    (hAgenda : t.agenda = task :: rest) :
    ∀ old ∈ rest, old.isCall = false := by
  intro old hMember
  apply hOrderly old
  rw [hAgenda]
  exact hMember

/- A free and orderly agenda has no call on it at all. -/
theorem Orderly.isCall_of_isFree
    (hOrderly : t.Orderly)
    (hFree : t.isFree = true) :
    ∀ task ∈ t.agenda, task.isCall = false := by
  intro task hMember
  unfold Orderly at hOrderly
  unfold isFree at hFree
  cases hAgenda : t.agenda with
  | nil =>
      rw [hAgenda] at hMember
      contradiction
  | cons first rest =>
      rw [hAgenda] at hMember hOrderly hFree
      rcases List.mem_cons.mp hMember with rfl | hRest
      · cases task <;> first | rfl | contradiction
      · exact hOrderly task hRest

theorem isCall_of_isDuty
    {task : Task}
    (hDuty : task.isDuty = false) :
    task.isCall = false := by
  cases task <;> first | rfl | contradiction

/- Entries without a call in front keep an agenda orderly. -/
theorem Orderly.of_append
    {t' : Turn}
    {front back : List Task}
    (hAgenda : t'.agenda = front ++ back)
    (hFront : ∀ task ∈ front.tail, task.isCall = false)
    (hBack : ∀ task ∈ back, task.isCall = false) :
    t'.Orderly := by
  intro task hMember
  rw [hAgenda] at hMember
  cases front with
  | nil => exact hBack task (List.mem_of_mem_tail hMember)
  | cons first rest =>
      rw [List.cons_append, List.tail_cons,
        List.mem_append] at hMember
      rcases hMember with hRest | hOld
      · exact hFront task hRest
      · exact hBack task hOld

/- Every move keeps the agenda orderly. -/
theorem Orderly.change
    {t' : Turn}
    (hOrderly : t.Orderly)
    (hChange : t.Change t') :
    t'.Orderly := by
  have hPlain :
      ∀ front : List Task,
        (∀ task ∈ front, task.isDuty = false) →
          ∀ task ∈ front.tail, task.isCall = false :=
    fun front hFront task hMember =>
      isCall_of_isDuty
        (hFront task (List.mem_of_mem_tail hMember))
  cases hChange with
  | pass _ _ hAgenda _ =>
      unfold Orderly
      rw [hAgenda]
      exact hOrderly
  | begin _ _ _ _ _ _ hAgenda _ =>
      unfold Orderly
      rw [hAgenda]
      exact hOrderly
  | aside front back _ hFree _ hAgenda hFront hBack _ _ =>
      refine .of_append hAgenda (hPlain front hFront) ?_
      intro task hMember
      exact
        hOrderly.isCall_of_isFree hFree task
          (hBack.subset hMember)
  | hand c _ front back hCall _ hAgenda hFront _ =>
      exact
        .of_append hAgenda (hPlain front hFront)
          (hOrderly.isCall_of_cons hCall)
  | take task back o hTask _ hEffect _ _ hAgenda _ =>
      refine
        .of_append hAgenda ?_ (hOrderly.isCall_of_cons hTask)
      intro owed hMember
      rw [← List.map_tail, List.mem_map] at hMember
      rcases hMember with ⟨d, hOwed, rfl⟩
      exact hEffect.owed_tail d hOwed

theorem orderly_move
    (hOrderly : t.Orderly)
    (m : Move) :
    (t.move m).Orderly :=
  hOrderly.change (t.change_move m)

theorem orderly_fresh (config : Config) :
    (fresh config).Orderly := by
  simp [Orderly, fresh]

theorem orderly_follow
    (hOrderly : t.Orderly)
    (moves : List Move) :
    (t.follow moves).Orderly :=
  follow_induction (P := Orderly)
    (fun _ m hBefore => orderly_move hBefore m) hOrderly moves

end Turn

end EventFeed
