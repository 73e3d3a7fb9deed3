import EventFeed.Proofs.Client.Lateness

/-
  This file makes runs flat.

  While the handlers of a client connect and disconnect it,
  calls nest: one operation goes on in the middle of another
  one.  In the flat run every operation has come to its end
  before the next one begins.  What a handler did comes right
  after the operation that called it, and what calls it led to
  in turn right after that; an event that opens the connection
  is told of as an opening and then as an event.  The handlers
  of a flat run only listen.

  Key definitions include:
    * `Handler.isSwitch`
    * `Turn.admitsAll`
    * `Turn.hearings`
    * `Turn.verdicts`
    * `Turn.flatten`
    * `Turn.outcome`

  Key results include:
    * `Turn.listener_of_mem_flatten`
    * `Turn.run_eq_take`
    * `Turn.verdicts_append`
-/

------------------------------------------------------------
-- Runs Whose Handlers Switch
------------------------------------------------------------

namespace EventFeed

/- Whether the action only connects or disconnects. -/
def Action.isSwitch : Action → Bool
  | .connect => true
  | .disconnect => true
  | _ => false

/- Whether all that a handler does is connect and disconnect. -/
def Handler.isSwitch (h : Handler) : Bool :=
  h.all fun reaction => reaction.all Action.isSwitch

/- Whether the action is one that only the program does. -/
def Action.isPlain : Action → Bool
  | .report _ _ => true
  | .register _ reactions => Handler.isSwitch reactions
  | .unregister _ => true
  | .ask _ => true
  | .release => true
  | .idle => true
  | _ => false

/- Whether the entry belongs to a handler that is running. -/
def Task.isNested : Task → Bool
  | .act a => a.isSwitch
  | .note _ => true
  | .leave _ _ => true
  | .owe (.call _) => true
  | _ => false

/- Whether the entry starts what is not up to a handler. -/
def Task.isRoot : Task → Bool
  | .act a => a.isPlain
  | .fireTimer _ => true
  | .fireAlarm _ _ => true
  | _ => false

namespace Turn

/-
  Whether the move is one of a run whose handlers do nothing
  but connect and disconnect.  While an operation is under way
  nothing else begins; connects and disconnects may come at
  any time.
-/
def admits (t : Turn) : Move → Bool
  | .act a =>
      a.isSwitch || (t.agenda.isEmpty && a.isPlain)
  | .timer _ => t.agenda.isEmpty
  | .alarm _ _ => t.agenda.isEmpty
  | _ => true

def admitsAll (t : Turn) : List Move → Bool
  | [] => true
  | m :: moves => t.admits m && (t.move m).admitsAll moves

end Turn

------------------------------------------------------------
-- What Shows of a Run
------------------------------------------------------------

/- The call that was observed, and whether it was heard. -/
def Observation.heard? : Observation → Option (Callback × Bool)
  | .call c heard => some (c, heard)
  | _ => none

/- The call that a duty is, and whether it will be heard. -/
def Duty.heard?
    (r : Registry Handler) :
    Duty → Option (Callback × Bool)
  | .call c => some (c, r.isRegistered c.slot)
  | _ => none

def Task.heard?
    (r : Registry Handler) :
    Task → Option (Callback × Bool)
  | .owe d => d.heard? r
  | _ => none

namespace Turn

/- The calls so far, and whether they were heard, in order. -/
def hearings (t : Turn) : List (Callback × Bool) :=
  t.seen.reverse.filterMap Observation.heard?

/- The calls that are still owed. -/
def owedHearings (t : Turn) : List (Callback × Bool) :=
  t.agenda.filterMap (Task.heard? t.client.handlers)

/- What a connect comes back with, if the move is one. -/
def verdict (t : Turn) : Move → List Answer
  | .step =>
      match t.agenda with
      | .act .connect :: _ => [(latest t.step.answers).1]
      | _ => []
  | _ => []

/- What the connects along a run come back with. -/
def verdicts (t : Turn) : List Move → List Answer
  | [] => []
  | m :: moves => t.verdict m ++ (t.move m).verdicts moves

end Turn

------------------------------------------------------------
-- Flat Runs
------------------------------------------------------------

/- Whether the entry is an event on its way. -/
def Task.isDelivery : Task → Bool
  | .owe (.deliver _ _) => true
  | _ => false

/-
  What is kept in mind while a run is made flat: the attempt
  whose event is on its way, the time that has passed on that
  way, how often the watch of the flat run was reset in vain,
  and whether any time was ever kept back.
-/
structure Echo where
  attempt : Nat
  late : Span
  extra : UInt64
  slipped : Bool
deriving Inhabited, Repr

namespace Echo

/- There is nothing to keep in mind yet. -/
def start : Echo :=
  ⟨0, 0, 0, false⟩

end Echo

namespace Turn

/- An operation with all that it leads to. -/
def Move.whole (m : Move) : List Move :=
  [m, .step, .step, .step, .step]

/- Whether an event of the attempt opens the connection. -/
def isOpenedBy (t : Turn) (attempt : Nat) : Bool :=
  match t.begun[attempt]? with
  | some generation =>
      t.isLive generation &&
        t.client.link.phase == .connecting
  | none => false

/- Whether an event waits for its delivery. -/
def isDelivering (t : Turn) : Bool :=
  t.agenda.any Task.isDelivery

/-
  The operations of a flat run that stand for an entry.  An
  event that opens the connection becomes two of them; the
  second one comes when the first has been answered.  Handlers
  are replaced by such that only listen.
-/
def flatTask (t : Turn) (s : Echo) : Task → List Move
  | .act (.report attempt (.event e)) =>
      if t.isOpenedBy attempt then
        Move.whole (.act (.report attempt .opened))
      else
        Move.whole (.act (.report attempt (.event e)))
  | .act (.register slot _) =>
      Move.whole (.act (.register slot Handler.listener))
  | .act a => Move.whole (.act a)
  | .owe (.deliver _ e) =>
      Move.whole (.act (.report s.attempt (.event e))) ++
        [.wait s.late]
  | .fireTimer generation => Move.whole (.timer generation)
  | .fireAlarm generation token =>
      Move.whole (.alarm generation (token + s.extra))
  | _ => []

def flatMove (t : Turn) (s : Echo) : Move → List Move
  | .step =>
      match t.agenda with
      | task :: _ => t.flatTask s task
      | [] => []
  | .wait span => if t.isDelivering then [] else [.wait span]
  | .begin => [.begin]
  | .drop => if t.agenda.isEmpty then [.drop] else []
  | _ => []

def echo (t : Turn) (s : Echo) : Move → Echo
  | .step =>
      match t.agenda with
      | .act (.report attempt (.event _)) :: _ =>
          { s with attempt := attempt }
      | .owe (.deliver generation _) :: _ =>
          { s with
            late := 0
            extra :=
              if t.client.link.isLive generation then
                s.extra + 1
              else
                s.extra }
      | _ => s
  | .wait span =>
      if t.isDelivering then
        { s with late := s.late + span, slipped := true }
      else
        s
  | _ => s

/- The flat run that stands for a run. -/
def flatten (t : Turn) (s : Echo) : List Move → List Move
  | [] => []
  | m :: moves =>
      t.flatMove s m ++ (t.move m).flatten (t.echo s m) moves

/- What is kept in mind at the end of the run. -/
def echoAll (t : Turn) (s : Echo) : List Move → Echo
  | [] => s
  | m :: moves => (t.move m).echoAll (t.echo s m) moves

theorem mem_whole
    {m move : Move}
    (hMember : move ∈ m.whole) :
    move = m ∨ move = .step := by
  simpa [Move.whole] using hMember

/- The handlers that come with an entry only listen. -/
theorem listener_of_mem_flatTask
    {t : Turn}
    {s : Echo}
    {task : Task}
    {slot : Slot}
    {reactions : Handler}
    (hMember :
      .act (.register slot reactions) ∈ t.flatTask s task) :
    reactions = Handler.listener := by
  unfold flatTask at hMember
  split at hMember
  · split at hMember <;>
      rcases mem_whole hMember with hEq | hEq <;> simp at hEq
  · rcases mem_whole hMember with hEq | hEq
    · rw [Move.act.injEq, Action.register.injEq] at hEq
      exact hEq.2
    · simp at hEq
  · next a hEvent hRegister =>
      rcases mem_whole hMember with hEq | hEq
      · rw [Move.act.injEq] at hEq
        exact absurd hEq.symm (hRegister slot reactions)
      · simp at hEq
  · rw [List.mem_append] at hMember
    rcases hMember with hWhole | hWait
    · rcases mem_whole hWhole with hEq | hEq <;> simp at hEq
    · simp at hWait
  · rcases mem_whole hMember with hEq | hEq <;> simp at hEq
  · rcases mem_whole hMember with hEq | hEq <;> simp at hEq
  · simp at hMember

/- The handlers of a flat run only listen. -/
theorem listener_of_mem_flatten
    {t : Turn}
    {s : Echo}
    {moves : List Move}
    {slot : Slot}
    {reactions : Handler}
    (hMember :
      .act (.register slot reactions) ∈ t.flatten s moves) :
    reactions = Handler.listener := by
  induction moves generalizing t s with
  | nil => simp [flatten] at hMember
  | cons m moves ih =>
      rw [flatten, List.mem_append] at hMember
      rcases hMember with hFirst | hLater
      · cases m with
        | step =>
            simp only [flatMove] at hFirst
            split at hFirst
            · exact listener_of_mem_flatTask hFirst
            · contradiction
        | wait span =>
            simp only [flatMove] at hFirst
            split at hFirst <;> simp at hFirst
        | drop =>
            simp only [flatMove] at hFirst
            split at hFirst <;> simp at hFirst
        | _ => simp [flatMove] at hFirst
      · exact ih hLater

end Turn

------------------------------------------------------------
-- Handlers That Listen
------------------------------------------------------------

/- Nothing changes if a slot gets the handler that it has. -/
theorem Registry.register_of_get
    {r : Registry Handler}
    {slot : Slot}
    {h : Handler}
    (hGet : r.get slot = some h) :
    r.register slot h = r := by
  cases slot <;> cases r <;>
    simp_all [Registry.get, Registry.register, Registry.put]

namespace Turn

/- What a single operation of a flat run can owe. -/
inductive Brief : List Duty → UInt64 → Prop
  | none : Brief [] 0
  | call (c : Callback) : Brief [.call c] 0
  | ping (c : Callback) : Brief [.call c, .countPing] 1

/- Handlers that listen have seen to what was owed. -/
def heed
    (u : Turn)
    (owed : List Duty)
    (pings : UInt64) : Turn :=
  { u with
    client :=
      { u.client with
        tally :=
          { u.client.tally with
            pings := u.client.tally.pings + pings } }
    agenda := []
    seen :=
      (owed.filterMap (Duty.heard? u.client.handlers)).map
          (fun call => Observation.call call.1 call.2) ++
        u.seen }

variable {t u : Turn}
variable {task : Task}
variable {rest : List Task}

theorem step_idle
    (hAgenda : u.agenda = []) :
    u.step = u := by
  unfold step
  rw [hAgenda]

/- A call that nobody hears is seen to at once. -/
theorem step_unheard
    {c : Callback}
    {rest : List Task}
    (hAgenda : u.agenda = .owe (.call c) :: rest)
    (hGet : u.client.handlers.get c.slot = none) :
    u.step =
      { u with
        agenda := rest
        seen := .call c false :: u.seen } := by
  simp only [step, hAgenda, run, handCall, hGet]

/- A call that a handler hears has nothing done about it. -/
theorem step_heard
    {c : Callback}
    {rest : List Task}
    (hAgenda : u.agenda = .owe (.call c) :: rest)
    (hGet :
      u.client.handlers.get c.slot = some Handler.listener) :
    u.step =
      { u with
        agenda := .leave c.slot u.answers :: rest
        seen := .call c true :: u.seen } := by
  have hSame :
      u.client.handlers.register c.slot [] =
        u.client.handlers :=
    Registry.register_of_get hGet
  simp [step, hAgenda, run, handCall, hGet, Handler.listener,
    Client.withHandlers, hSame]

theorem step_leave
    {slot : Slot}
    {answers : List Answer}
    {rest : List Task}
    (hAgenda : u.agenda = .leave slot answers :: rest) :
    u.step = { u with answers := answers, agenda := rest } := by
  unfold step
  rw [hAgenda]
  rfl

theorem step_countPing
    {rest : List Task}
    (hAgenda : u.agenda = .owe .countPing :: rest) :
    u.step =
      { u with
        client := u.client.count .pings
        agenda := rest } := by
  unfold step
  rw [hAgenda]
  rfl

/-
  Handlers that listen hear a call in one step, or return from
  it in a second one.
-/
theorem step_of_listening
    (hListening :
      ∀ slot handler,
        u.client.handlers.get slot = some handler →
          handler = Handler.listener)
    {c : Callback}
    (hAgenda : u.agenda = .owe (.call c) :: rest)
    {told : Turn}
    (hTold :
      told =
        { u with
          agenda := rest
          seen :=
            .call c (u.client.handlers.isRegistered c.slot) ::
              u.seen }) :
    u.step = told ∨
      (u.step.step = told ∧
        u.step.agenda = .leave c.slot u.answers :: rest) := by
  rw [hTold, Registry.isRegistered]
  cases hGet : u.client.handlers.get c.slot with
  | none => exact Or.inl (step_unheard hAgenda hGet)
  | some handler =>
      cases hListening c.slot handler hGet
      have hHeard := step_heard hAgenda hGet
      have hLeave :
          u.step.agenda = .leave c.slot u.answers :: rest := by
        rw [hHeard]
      refine Or.inr ⟨?_, hLeave⟩
      rw [step_leave hLeave, hHeard]
      rfl

/- Three steps are enough for what an operation owes. -/
theorem follow_of_brief
    (hListening :
      ∀ slot handler,
        u.client.handlers.get slot = some handler →
          handler = Handler.listener)
    {owed : List Duty}
    {pings : UInt64}
    (hBrief : Brief owed pings)
    (hAgenda : u.agenda = owed.map Task.owe) :
    u.step.step.step = u.heed owed pings ∧
      u.verdicts [.step, .step, .step] = [] := by
  cases hBrief with
  | none =>
      have hIdle := step_idle hAgenda
      constructor
      · rw [hIdle, hIdle, hIdle]
        cases u
        simp_all [heed]
      · simp [verdicts, verdict, move, hIdle, hAgenda]
  | call c =>
      have hTold :
          u.heed [.call c] 0 =
            { u with
              agenda := []
              seen :=
                .call c
                    (u.client.handlers.isRegistered c.slot) ::
                  u.seen } := by
        simp [heed, Duty.heard?]
      have hDone : (u.heed [.call c] 0).agenda = [] := rfl
      have hIdle := step_idle hDone
      rcases step_of_listening hListening hAgenda hTold with
        hFirst | ⟨hSecond, hLeave⟩
      · rw [hFirst, hIdle, hIdle]
        refine ⟨rfl, ?_⟩
        simp [verdicts, verdict, move, hAgenda, hFirst, hIdle,
          hDone]
      · rw [hSecond, hIdle]
        refine ⟨rfl, ?_⟩
        simp [verdicts, verdict, move, hAgenda, hLeave, hSecond,
          hDone]
  | ping c =>
      obtain ⟨told, hTold⟩ :
          ∃ told,
            told =
              { u with
                agenda := [.owe .countPing]
                seen :=
                  .call c
                      (u.client.handlers.isRegistered c.slot) ::
                    u.seen } :=
        ⟨_, rfl⟩
      have hPing : told.agenda = [.owe .countPing] := by
        rw [hTold]
      have hCounted :
          told.step = u.heed [.call c, .countPing] 1 := by
        rw [step_countPing hPing, hTold]
        simp [heed, Duty.heard?, Client.count, Tally.count,
          Tally.add]
      have hDone : told.step.agenda = [] := by
        rw [hCounted]
        rfl
      rcases step_of_listening hListening hAgenda hTold with
        hFirst | ⟨hSecond, hLeave⟩
      · rw [hFirst, step_idle hDone]
        refine ⟨hCounted, ?_⟩
        simp [verdicts, verdict, move, hAgenda, hFirst, hPing,
          hDone]
      · rw [hSecond]
        refine ⟨hCounted, ?_⟩
        simp [verdicts, verdict, move, hAgenda, hLeave, hSecond,
          hPing]

end Turn

------------------------------------------------------------
-- Entries as Outcomes
------------------------------------------------------------

namespace Turn

/- What an entry makes of the client. -/
def outcome (t : Turn) : Task → Outcome
  | .act .connect =>
      if t.held then t.client.connect t.now
      else t.client.unchanged
  | .act .disconnect =>
      if t.held then t.client.disconnect
      else t.client.unchanged
  | .act (.report attempt r) =>
      match t.begun[attempt]? with
      | some generation =>
          if t.alive then t.client.report t.now generation r
          else t.client.unchanged
      | none => t.client.unchanged
  | .act (.register slot reactions) =>
      if t.held then
        ⟨t.client.withHandlers
          (t.client.handlers.register slot reactions), [], []⟩
      else
        t.client.unchanged
  | .act (.unregister slot) =>
      if t.held then
        ⟨t.client.withHandlers
          (t.client.handlers.unregister slot), [], []⟩
      else
        t.client.unchanged
  | .fireTimer generation =>
      t.client.fireTimer t.now generation
  | .fireAlarm generation token =>
      t.client.fireAlarm t.now generation token
  | .owe d => t.client.perform d
  | _ => t.client.unchanged

/- What a connect comes back with. -/
def permission (t : Turn) : Answer :=
  if t.held then
    match t.client.connectRefusal? with
    | some e => .refused e
    | none => .accepted
  else
    .noClient

/- Whether the program or a handler may do it in a flat run. -/
def isTaken : Task → Bool
  | .act .connect => true
  | .act .disconnect => true
  | .act (.report _ _) => true
  | .act (.register _ _) => true
  | .act (.unregister _) => true
  | .act (.ask _) => true
  | .act .idle => true
  | .owe (.deliver _ _) => true
  | .owe .countPing => true
  | .fireTimer _ => true
  | .fireAlarm _ _ => true
  | _ => false

variable {t : Turn}
variable {task : Task}
variable {rest : List Task}

theorem run_connect (t : Turn) :
    t.run (.act .connect) =
      (t.take (t.outcome (.act .connect))).reply
        t.permission := by
  unfold outcome permission
  simp only [run, act, ifHeld]
  by_cases hHeld : t.held = true
  · rw [if_pos hHeld, if_pos hHeld, if_pos hHeld]
    cases hRefusal : t.client.connectRefusal? with
    | none => rfl
    | some e =>
        have hPhase :
            ¬ t.client.link.phase.acceptsConnect = true := by
          intro hAccepts
          simp [Client.connectRefusal?, hAccepts] at hRefusal
        simp only [Client.connect, if_neg hPhase]
        rfl
  · rw [if_neg hHeld, if_neg hHeld, if_neg hHeld]
    rfl

/- Seeing to an entry is to take what it makes of the client. -/
theorem run_eq_take
    (t : Turn)
    {task : Task}
    (hTaken : isTaken task = true) :
    ∃ answers,
      t.run task =
        { t.take (t.outcome task) with answers := answers } := by
  cases task with
  | act a =>
      cases a with
      | connect =>
          rw [run_connect]
          exact ⟨_, rfl⟩
      | disconnect =>
          simp only [run, act, ifHeld, outcome]
          split <;> exact ⟨_, rfl⟩
      | report attempt r =>
          cases hBegun : t.begun[attempt]? with
          | none =>
              simp only [run, act, withAttempt, outcome, hBegun]
              exact ⟨_, rfl⟩
          | some generation =>
              simp only [run, act, withAttempt, outcome, hBegun]
              split <;> exact ⟨_, rfl⟩
      | register slot reactions =>
          simp only [run, act, ifHeld, outcome]
          split <;> exact ⟨_, rfl⟩
      | unregister slot =>
          simp only [run, act, ifHeld, outcome]
          split <;> exact ⟨_, rfl⟩
      | ask q =>
          rcases answer_eq t q with ⟨answers, hAnswer⟩
          simp only [run, act, hAnswer]
          exact ⟨answers, rfl⟩
      | idle => exact ⟨_, rfl⟩
      | _ => contradiction
  | owe d =>
      cases d with
      | call c => contradiction
      | deliver generation e => exact ⟨t.answers, rfl⟩
      | countPing => exact ⟨t.answers, rfl⟩
  | fireTimer generation => exact ⟨t.answers, rfl⟩
  | fireAlarm generation token => exact ⟨t.answers, rfl⟩
  | _ => contradiction

theorem outcome_withAgenda
    (t : Turn)
    (agenda : List Task)
    (task : Task) :
    Turn.outcome { t with agenda := agenda } task =
      t.outcome task := by
  cases task with
  | act a => cases a <;> rfl
  | _ => rfl

/- A step is what the first entry makes of the client. -/
theorem step_eq_take
    (hAgenda : t.agenda = task :: rest)
    (hTaken : isTaken task = true) :
    ∃ answers,
      t.step =
        { { t with agenda := rest }.take (t.outcome task) with
          answers := answers } := by
  have hStep :
      t.step = Turn.run { t with agenda := rest } task := by
    unfold step
    rw [hAgenda]
  rw [hStep, ← t.outcome_withAgenda rest task]
  exact run_eq_take { t with agenda := rest } hTaken

end Turn

------------------------------------------------------------
-- What Is Owed
------------------------------------------------------------

namespace Turn

theorem brief_accept (c : Client) (e : Event) :
    ∃ more, Brief (c.accept e).owed more := by
  unfold Client.accept
  by_cases hPing : e.isPing = true
  · simp only [hPing, if_true]
    exact ⟨1, .ping _⟩
  · simp only [hPing]
    exact ⟨0, .call _⟩

theorem brief_recover
    (c : Client)
    (now : Time)
    (before : List Remark) :
    ∃ more, Brief (c.recover now before).owed more := by
  simp only [Client.recover, Client.noticeDuty]
  cases (c.link.recover c.config now).notice with
  | none => exact ⟨0, .none⟩
  | some notice => exact ⟨0, .call _⟩

theorem brief_switch
    (t : Turn)
    {a : Action}
    (hSwitch : a.isSwitch = true) :
    Brief (t.outcome (.act a)).owed 0 := by
  cases a with
  | connect =>
      simp only [outcome, Client.connect]
      split
      · split <;> exact .none
      · exact .none
  | disconnect =>
      simp only [outcome]
      split
      · exact .call .closed
      · exact .none
  | _ => contradiction

/- Nothing but an event that opens owes more than that. -/
theorem brief_report
    (c : Client)
    (now : Time)
    (generation : UInt64)
    (r : Report)
    (hOpens :
      ∀ e, r = .event e → c.link.isLive generation = true →
        c.link.phase ≠ .connecting) :
    ∃ more, Brief (c.report now generation r).owed more := by
  cases r with
  | opened =>
      simp only [Client.report]
      split
      · exact ⟨0, .call _⟩
      · exact ⟨0, .none⟩
  | event e =>
      simp only [Client.report, Client.takeEvent]
      split
      · next hLive =>
          split
          · next hPhase =>
              exact absurd hPhase (hOpens e rfl hLive)
          · exact
              brief_accept { c with link := c.link.arm now } e
          · exact ⟨0, .none⟩
      · exact ⟨0, .none⟩
  | error e =>
      simp only [Client.report, Client.takeError]
      split
      · exact ⟨0, .call _⟩
      · exact ⟨0, .none⟩
  | closed =>
      simp only [Client.report, Client.takeEnd]
      split
      · exact brief_recover _ now []
      · exact ⟨0, .none⟩

theorem brief_root
    (t : Turn)
    {task : Task}
    (hRoot : task.isRoot = true)
    (hOpens :
      ∀ attempt e, task = .act (.report attempt (.event e)) →
        t.isOpenedBy attempt = false) :
    ∃ more, Brief (t.outcome task).owed more := by
  cases task with
  | act a =>
      cases a with
      | report attempt r =>
          simp only [outcome]
          split
          · next generation hBegun =>
              split
              · next hAlive =>
                  apply brief_report
                  intro e hEvent hLive hPhase
                  have hClosed :=
                    hOpens attempt e (by rw [hEvent])
                  simp [isOpenedBy, hBegun, isLive, hAlive, hLive,
                    hPhase] at hClosed
              · exact ⟨0, .none⟩
          · exact ⟨0, .none⟩
      | register slot reactions =>
          simp only [outcome]
          split <;> exact ⟨0, .none⟩
      | unregister slot =>
          simp only [outcome]
          split <;> exact ⟨0, .none⟩
      | _ => first | exact ⟨0, .none⟩ | contradiction
  | fireTimer generation =>
      simp only [outcome, Client.fireTimer]
      split
      · exact ⟨0, .none⟩
      · exact ⟨0, .call _⟩
  | fireAlarm generation token =>
      simp only [outcome, Client.fireAlarm]
      split
      · exact ⟨0, .none⟩
      · exact brief_recover _ t.now _
  | _ => contradiction

end Turn

------------------------------------------------------------
-- Whole Operations
------------------------------------------------------------

namespace Turn

variable {t : Turn}
variable {task : Task}
variable {rest : List Task}

/- What the program does to an idle client comes next. -/
theorem move_act
    (hIdle : t.agenda = [])
    (a : Action) :
    t.move (.act a) = { t with agenda := [.act a] } := by
  simp [move, put, isFree, hIdle]

/- An entry that is put on an empty agenda is seen to next. -/
theorem step_of_put
    {m : Move}
    (hIdle : t.agenda = [])
    (hMove : t.move m = { t with agenda := [task] }) :
    (t.move m).step = t.run task := by
  have hSame : { t with agenda := [] } = t := by
    cases t
    simp_all
  rw [hMove]
  show Turn.run { t with agenda := [] } task = t.run task
  rw [hSame]

theorem follow_whole
    {m : Move}
    (hIdle : t.agenda = [])
    (hMove : t.move m = { t with agenda := [task] }) :
    t.follow m.whole = (t.run task).step.step.step := by
  show (t.move m).step.step.step.step = _
  rw [step_of_put hIdle hMove]

/- A connect comes back with what the client permits. -/
theorem verdict_connect
    (hAgenda : t.agenda = .act .connect :: rest) :
    t.verdict .step = [t.permission] := by
  have hStep :
      t.step.answers = t.permission :: t.answers := by
    unfold step
    rw [hAgenda]
    exact
      congrArg Turn.answers
        (run_connect { t with agenda := rest })
  simp only [verdict, hAgenda, hStep]
  rfl

theorem verdict_of_ne
    (hAgenda : t.agenda = task :: rest)
    (hOther : task ≠ .act .connect) :
    t.verdict .step = [] := by
  simp only [verdict, hAgenda]
  split
  · next hHead =>
      rw [List.cons.injEq] at hHead
      exact absurd hHead.1 hOther
  · rfl

theorem verdicts_whole
    {m : Move}
    (hIdle : t.agenda = [])
    (hMove : t.move m = { t with agenda := [task] })
    (hStep : t.verdict m = [])
    (hRest : (t.run task).verdicts [.step, .step, .step] = []) :
    t.verdicts m.whole =
      Turn.verdict { t with agenda := [task] } .step := by
  show
    t.verdict m ++
        ((t.move m).verdict .step ++
          (t.move m).step.verdicts [.step, .step, .step]) = _
  rw [hStep, step_of_put hIdle hMove, hRest, hMove,
    List.nil_append, List.append_nil]

theorem verdicts_append
    (t : Turn)
    (moves later : List Move) :
    t.verdicts (moves ++ later) =
      t.verdicts moves ++ (t.follow moves).verdicts later := by
  induction moves generalizing t with
  | nil => rfl
  | cons m moves ih =>
      rw [List.cons_append, verdicts, verdicts, ih,
        follow_cons, List.append_assoc]

end Turn

end EventFeed
