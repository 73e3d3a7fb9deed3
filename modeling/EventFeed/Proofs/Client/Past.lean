import EventFeed.Proofs.Client.Likeness

/-
  This file says what it makes of a client to have a past.

  Clocks, generations, tokens and counts go on from where the
  past has left them; nothing else of it can be told.  So to
  put a past before a client and to let it act is the same in
  either order, to the last entry of its agenda; only where a
  handle is described in words the answers differ.

  Key definitions include:
    * `Past`
    * `Link.after`
    * `Client.after`
    * `Task.after`
    * `Turn.after`
    * `Turn.Move.after`

  Key results include:
    * `Link.recover_after`
    * `Client.report_after`
    * `Turn.alike_run_after`
    * `Turn.alike_follow_after`
-/

------------------------------------------------------------
-- Pasts
------------------------------------------------------------

namespace EventFeed

/-
  What a client has behind it: the time that has passed, the
  generation and the token that were reached, what has been
  counted and what has been seen, last first.
-/
structure Past where
  now : Time
  generation : UInt64
  token : UInt64
  tally : Tally
  seen : List Observation

variable (p : Past)

/- A remark names generations that go on from the past. -/
def Remark.after (r : Remark) : Remark :=
  match r with
  | .starting kind generation =>
      .starting kind (generation + p.generation)
  | _ => r

def Alarm.after (a : Alarm) : Alarm :=
  match a with
  | .waiting due => .waiting (due + p.now)
  | .rung => .rung

def Keepalive.after (k : Keepalive) : Keepalive :=
  { k with
    token := k.token + p.token
    alarm := k.alarm.map (Alarm.after p) }

def ReconnectTimer.after (t : ReconnectTimer) : ReconnectTimer :=
  ⟨t.due + p.now, t.generation + p.generation⟩

/- The link that goes on from a past. -/
def Link.after (l : Link) : Link :=
  { l with
    generation := l.generation + p.generation
    transport := l.transport.map (· + p.generation)
    timer := l.timer.map (ReconnectTimer.after p)
    keepalive := l.keepalive.after p
    startedAt := l.startedAt.map (· + p.now)
    openedAt := l.openedAt.map (· + p.now) }

def Link.Recovery.after (r : Link.Recovery) : Link.Recovery :=
  ⟨r.link.after p, r.remarks.map (Remark.after p), r.notice⟩

/- The counts with those of the past. -/
def Tally.after (t : Tally) : Tally where
  events := t.events + p.tally.events
  pings := t.pings + p.tally.pings
  errors := t.errors + p.tally.errors
  reconnects := t.reconnects + p.tally.reconnects

/- The client that goes on from a past. -/
def Client.after (c : Client) : Client :=
  { c with
    link := c.link.after p
    tally := c.tally.after p }

def Duty.after (d : Duty) : Duty :=
  match d with
  | .deliver generation e =>
      .deliver (generation + p.generation) e
  | _ => d

def Outcome.after (o : Outcome) : Outcome :=
  ⟨o.client.after p, o.remarks.map (Remark.after p),
    o.owed.map (Duty.after p)⟩

/- The entry as it is on an agenda with a past. -/
def Task.after (task : Task) : Task :=
  match task with
  | .owe d => .owe (d.after p)
  | .fireTimer generation =>
      .fireTimer (generation + p.generation)
  | .fireAlarm generation token =>
      .fireAlarm (generation + p.generation) (token + p.token)
  | _ => task

def Observation.after (o : Observation) : Observation :=
  match o with
  | .remark r => .remark (r.after p)
  | _ => o

namespace Turn

/- The turn that goes on from a past. -/
def after (t : Turn) : Turn where
  now := t.now + p.now
  begun := t.begun.map (· + p.generation)
  alive := t.alive
  held := t.held
  client := t.client.after p
  agenda := t.agenda.map (Task.after p)
  answers := t.answers
  seen := t.seen.map (Observation.after p) ++ p.seen

/- The same move of a turn that goes on from a past. -/
def Move.after (m : Move) : Move :=
  match m with
  | .timer generation => .timer (generation + p.generation)
  | .alarm generation token =>
      .alarm (generation + p.generation) (token + p.token)
  | _ => m

end Turn

end EventFeed

------------------------------------------------------------
-- Links with a Past
------------------------------------------------------------

namespace EventFeed

variable (p : Past)

/- It makes no difference when a generation goes on. -/
theorem add_one_after (a b : UInt64) : a + b + 1 = a + 1 + b := by
  rw [UInt64.add_assoc, UInt64.add_comm b, ← UInt64.add_assoc]

/- Numbers of one kind can be told apart as before. -/
theorem add_beq_after (a b c : UInt64) :
    (a + c == b + c) = (a == b) := by
  rw [Bool.eq_iff_iff, beq_iff_eq, beq_iff_eq,
    UInt64.add_left_inj]

theorem Keepalive.isCurrent_after
    (k : Keepalive)
    (token : UInt64) :
    (k.after p).isCurrent (token + p.token) =
      k.isCurrent token := by
  simp [isCurrent, isArmed, after, add_beq_after]

theorem Keepalive.reset_after
    (k : Keepalive)
    (now : Time) :
    (k.after p).reset (now + p.now) = (k.reset now).after p := by
  simp [reset, after, Alarm.after, add_one_after,
    Nat.add_right_comm]

namespace Link

variable (config : Config)
variable (now : Time)
variable (l : Link)

@[simp]
theorem phase_after : (l.after p).phase = l.phase :=
  rfl

@[simp]
theorem manual_after : (l.after p).manual = l.manual :=
  rfl

@[simp]
theorem attempts_after : (l.after p).attempts = l.attempts :=
  rfl

@[simp]
theorem isLive_after (generation : UInt64) :
    (l.after p).isLive (generation + p.generation) =
      l.isLive generation := by
  simp [isLive, after, add_beq_after]

/- How long a connection is open is measured on one clock. -/
theorem openFor_after :
    (l.after p).openFor (now + p.now) = l.openFor now := by
  unfold openFor
  rw [phase_after]
  cases l.phase <;> cases hOpened : l.openedAt <;>
    simp [after, hOpened, Nat.add_sub_add_right]

theorem elapsed_after :
    (l.after p).elapsed (now + p.now) = l.elapsed now := by
  unfold elapsed
  cases hStarted : l.startedAt with
  | none => simp [after, hStarted]
  | some started =>
      simp [after, hStarted, Nat.add_sub_add_right]

theorem enterRemarks_after (next : Phase) :
    (l.enterRemarks next).map (Remark.after p) =
      l.enterRemarks next := by
  unfold enterRemarks
  split <;> rfl

theorem retire_after :
    (l.after p).retire = l.retire.after p := by
  simp [retire, after, Keepalive.stop, Keepalive.after,
    add_one_after]

theorem start_after :
    (l.after p).start config (now + p.now) =
      ((l.start config now).1.after p,
        (l.start config now).2.map (Remark.after p)) := by
  have hRemarks :
      (l.after p).enterRemarks .connecting =
        l.enterRemarks .connecting :=
    rfl
  simp only [start, retire_after, hRemarks, List.map_append,
    enterRemarks_after]
  rfl

theorem shut_after :
    (l.after p).shut =
      (l.shut.1.after p, l.shut.2.map (Remark.after p)) := by
  have hRemarks :
      (l.after p).enterRemarks .closed =
        l.enterRemarks .closed :=
    rfl
  simp only [shut, retire_after, hRemarks, enterRemarks_after]
  rfl

theorem arm_after :
    (l.after p).arm (now + p.now) = (l.arm now).after p := by
  simp only [arm, after, Keepalive.reset_after]

theorem openUp_after :
    (l.after p).openUp config (now + p.now) =
      ((l.openUp config now).1.after p,
        (l.openUp config now).2.map (Remark.after p)) := by
  have hRemarks :
      (l.after p).enterRemarks .opened =
        l.enterRemarks .opened :=
    rfl
  have hEnter :
      { (l.after p).enter .opened with
          attempts := 0
          openedAt := some (now + p.now) } =
        { l.enter .opened with
          attempts := 0
          openedAt := some now }.after p :=
    rfl
  simp only [openUp, hEnter, arm_after, hRemarks,
    elapsed_after, List.map_append, enterRemarks_after]
  rfl

theorem giveUp_after (why : Remark) :
    (l.after p).giveUp (why.after p) =
      (l.giveUp why).after p := by
  have hRemarks :
      (l.after p).enterRemarks .closed =
        l.enterRemarks .closed :=
    rfl
  simp only [giveUp, Recovery.after, retire_after, hRemarks,
    List.map_cons, enterRemarks_after]
  rfl

theorem retry_after :
    (l.after p).retry config (now + p.now) =
      (l.retry config now).after p := by
  have hRemarks :
      (l.after p).enterRemarks .reconnecting =
        l.enterRemarks .reconnecting :=
    rfl
  have hDue :
      now + p.now + config.reconnectInterval =
        now + config.reconnectInterval + p.now :=
    Nat.add_right_comm _ _ _
  simp only [retry, Recovery.after, retire_after, hRemarks,
    hDue, List.map_append, enterRemarks_after]
  rfl

/- A failure is answered as if there were no past. -/
theorem recover_after :
    (l.after p).recover config (now + p.now) =
      (l.recover config now).after p := by
  have hLost := giveUp_after p l .lost
  have hGaveUp :=
    fun ceiling => giveUp_after p l (.gaveUp ceiling)
  simp only [Remark.after] at hLost hGaveUp
  unfold recover
  simp only [manual_after, phase_after, attempts_after, hLost,
    hGaveUp, retry_after]
  split
  · rfl
  · split
    · rfl
    · split
      · rfl
      · split
        · split <;> rfl
        · rfl

end Link

end EventFeed

------------------------------------------------------------
-- Clients with a Past
------------------------------------------------------------

namespace EventFeed

variable (p : Past)

theorem Tally.count_after (t : Tally) (k : Tally.Counter) :
    (t.after p).count k = (t.count k).after p := by
  cases k <;> simp [count, add, after, add_one_after]

namespace Client

variable (now : Time)
variable (c : Client)

@[simp]
theorem config_after : (c.after p).config = c.config :=
  rfl

@[simp]
theorem link_after : (c.after p).link = c.link.after p :=
  rfl

theorem withLink_after (l : Link) :
    { c.after p with link := l.after p } =
      { c with link := l }.after p :=
  rfl

theorem count_after (k : Tally.Counter) :
    (c.after p).count k = (c.count k).after p := by
  simp only [count, after, Tally.count_after]

theorem connect_after :
    (c.after p).connect (now + p.now) =
      (c.connect now).after p := by
  have hStart :=
    Link.start_after p c.config now
      { c.link with attempts := 0 }
  by_cases hPhase : c.link.phase.acceptsConnect = true
  · have hPhase' :
        (c.after p).link.phase.acceptsConnect = true :=
      hPhase
    rw [connect_of_accepted _ hPhase,
      connect_of_accepted _ hPhase']
    exact
      congrArg
        (fun s : Link × List Remark =>
          Outcome.mk { c.after p with link := s.1 }
            (.connecting c.config.url c.config.transport.kind ::
              s.2)
            [])
        hStart
  · simp only [connect, link_after, Link.phase_after, hPhase]
    rfl

theorem disconnect_after :
    (c.after p).disconnect = c.disconnect.after p := by
  simp only [disconnect, link_after, Link.shut_after,
    Outcome.after, List.map_append]
  rfl

theorem accept_after (e : Event) :
    (c.after p).accept e = (c.accept e).after p := by
  have hRemark :
      (deliveryRemark e).after p = deliveryRemark e := by
    unfold deliveryRemark
    split <;> rfl
  simp only [accept, count_after, Outcome.after, List.map_cons,
    hRemark]
  split <;> rfl

theorem opening_after (next : List Duty) :
    (c.after p).opening (now + p.now)
        (next.map (Duty.after p)) =
      (c.opening now next).after p := by
  simp only [opening, link_after, config_after,
    Link.openUp_after]
  rfl

theorem recover_after (before : List Remark) :
    (c.after p).recover (now + p.now)
        (before.map (Remark.after p)) =
      (c.recover now before).after p := by
  have hNotice :
      ∀ notice : Option Notice,
        (noticeDuty notice).map (Duty.after p) =
          noticeDuty notice := by
    intro notice
    cases notice <;> rfl
  simp only [recover, link_after, config_after,
    Link.recover_after, Outcome.after, List.map_append, hNotice]
  rfl

theorem report_after (generation : UInt64) (r : Report) :
    (c.after p).report (now + p.now)
        (generation + p.generation) r =
      (c.report now generation r).after p := by
  have hLive := c.link.isLive_after p generation
  cases r with
  | opened =>
      simp only [report, link_after, hLive, Link.phase_after]
      split
      · exact opening_after p now c []
      · rfl
  | event e =>
      simp only [report, takeEvent, link_after, hLive,
        Link.phase_after]
      split
      · split
        · exact opening_after p now c [.deliver generation e]
        · rw [Link.arm_after, withLink_after, accept_after]
        · rfl
      · rfl
  | error e =>
      simp only [report, takeError, link_after, hLive,
        count_after]
      split <;> rfl
  | closed =>
      simp only [report, takeEnd, link_after, hLive]
      split
      · exact
          recover_after p now
            { c with link := { c.link with transport := none } }
            []
      · rfl

theorem fireTimer_after (generation : UInt64) :
    (c.after p).fireTimer (now + p.now)
        (generation + p.generation) =
      (c.fireTimer now generation).after p := by
  have hSame :
      ((c.link.after p).generation !=
          generation + p.generation) =
        (c.link.generation != generation) :=
    congrArg not (add_beq_after _ _ _)
  have hStart :=
    Link.start_after p c.config now { c.link with timer := none }
  simp only [fireTimer, link_after, hSame, Link.manual_after,
    Link.phase_after]
  split
  · rfl
  · simp only [Outcome.after, ← count_after]
    exact
      congrArg
        (fun s : Link × List Remark =>
          Outcome.mk
            (Client.count { c.after p with link := s.1 }
              .reconnects)
            (.retrying c.link.attempts c.config.url :: s.2)
            [.call (.reconnected c.link.attempts)])
        hStart

theorem fireAlarm_after (generation token : UInt64) :
    (c.after p).fireAlarm (now + p.now)
        (generation + p.generation) (token + p.token) =
      (c.fireAlarm now generation token).after p := by
  have hSame :
      ((c.link.after p).generation !=
          generation + p.generation) =
        (c.link.generation != generation) :=
    congrArg not (add_beq_after _ _ _)
  have hCurrent :
      (c.link.after p).keepalive.isCurrent (token + p.token) =
        c.link.keepalive.isCurrent token :=
    c.link.keepalive.isCurrent_after p token
  simp only [fireAlarm, link_after, hSame, hCurrent,
    Link.manual_after, Link.phase_after]
  split
  · rfl
  · exact
      recover_after p now
        { c with
          link :=
            { c.link with keepalive := c.link.keepalive.stop } }
        [.silent c.link.keepalive.window,
          .timedOut c.link.keepalive.window]

theorem perform_after (d : Duty) :
    (c.after p).perform (d.after p) =
      (c.perform d).after p := by
  cases d with
  | call callback => rfl
  | deliver generation e =>
      simp only [perform, Duty.after, link_after,
        Link.isLive_after]
      split
      · exact accept_after p c e
      · rfl
  | countPing =>
      simp only [perform, Duty.after, count_after]
      rfl

end Client

end EventFeed

------------------------------------------------------------
-- Turns with a Past
------------------------------------------------------------

namespace EventFeed

namespace Task

variable (p : Past)
variable (task : Task)

@[simp]
theorem isReturn_after :
    (task.after p).isReturn = task.isReturn := by
  cases task <;> rfl

end Task

namespace Turn

variable (p : Past)
variable (t : Turn)

/- An operation that heeds no past is taken over as it is. -/
theorem take_after
    {o o' : Outcome}
    (hOutcome : o' = o.after p) :
    (t.after p).take o' = (t.take o).after p := by
  rw [hOutcome]
  simp [take, after, Outcome.after, Task.after,
    Observation.after, Function.comp_def]

theorem ifHeld_after
    {go : Turn → Turn}
    (hGo : go (t.after p) = (go t).after p) :
    (t.after p).ifHeld go = (t.ifHeld go).after p := by
  unfold ifHeld
  show (if t.held then _ else _) = _
  split
  · exact hGo
  · rfl

theorem withAttempt_after
    (attempt : Nat)
    {go go' : UInt64 → Turn}
    (hGo :
      ∀ generation,
        go' (generation + p.generation) =
          (go generation).after p) :
    (t.after p).withAttempt attempt go' =
      (t.withAttempt attempt go).after p := by
  have hBegun :
      (t.after p).begun[attempt]? =
        t.begun[attempt]?.map (· + p.generation) :=
    Array.getElem?_map
  unfold withAttempt
  rw [hBegun]
  cases t.begun[attempt]? with
  | none => rfl
  | some generation => exact hGo generation

theorem unwind_after :
    (t.after p).unwind = t.unwind.after p := by
  have hDrop :
      (t.after p).agenda.dropWhile
          (fun task => !task.isReturn) =
        (t.agenda.dropWhile fun task => !task.isReturn).map
          (Task.after p) := by
    simp [after, List.dropWhile_map, Function.comp_def]
  unfold unwind
  rw [hDrop]
  cases t.agenda.dropWhile fun task => !task.isReturn with
  | nil => rfl
  | cons task rest => cases task <;> rfl

theorem handCall_after (c : Callback) :
    (t.after p).handCall c = (t.handCall c).after p := by
  have hHandlers :
      (t.after p).client.handlers = t.client.handlers :=
    rfl
  unfold handCall
  rw [hHandlers]
  split
  · rfl
  · simp [after, Task.after, Observation.after,
      Client.withHandlers, Client.after, List.map_flatMap]

variable (keep : Remark → Bool)

theorem Alike.of_eq {t t' : Turn} (hEq : t = t') :
    t.Alike keep t' := by
  rw [hEq]
  exact .refl t'

/-
  An action has the same effect with a past or without one.
  Only a question is answered in other words.
-/
theorem alike_act_after (a : Action) :
    ((t.after p).act a).Alike keep ((t.act a).after p) := by
  have hReply :
      ∀ (t' : Turn) (answer : Answer) (o o' : Outcome),
        o' = o.after p →
          ((t'.after p).take o').reply answer =
            ((t'.take o).reply answer).after p := by
    intro t' answer o o' hOutcome
    rw [take_after p t' hOutcome]
    rfl
  cases a with
  | connect =>
      simp only [act]
      refine .of_eq keep (ifHeld_after p t ?_)
      have hRefusal :
          (t.after p).client.connectRefusal? =
            t.client.connectRefusal? :=
        rfl
      simp only [hRefusal]
      cases t.client.connectRefusal? with
      | some e => rfl
      | none =>
          exact
            hReply t _ _ _
              (Client.connect_after p t.now t.client)
  | disconnect =>
      simp only [act]
      refine .of_eq keep (ifHeld_after p t ?_)
      exact hReply t _ _ _ (Client.disconnect_after p t.client)
  | report attempt r =>
      refine .of_eq keep (withAttempt_after p t attempt ?_)
      intro generation
      cases hAlive : t.alive with
      | true =>
          have hAlive' : (t.after p).alive = true := hAlive
          rw [if_pos hAlive', if_pos rfl]
          exact
            hReply t _ _ _
              (Client.report_after p t.now t.client generation r)
      | false =>
          have hAlive' : ¬ (t.after p).alive = true := by
            simp [after, hAlive]
          rw [if_neg hAlive', if_neg (by simp)]
          rfl
  | register slot reactions =>
      simp only [act]
      exact .of_eq keep (ifHeld_after p t rfl)
  | unregister slot =>
      simp only [act]
      exact .of_eq keep (ifHeld_after p t rfl)
  | ask q =>
      rcases answer_eq (t.after p) q with ⟨answers, hAnswer⟩
      rcases answer_eq t q with ⟨answers', hAnswer'⟩
      simp only [act]
      rw [hAnswer, hAnswer']
      rfl
  | release => exact .refl _
  | panic => exact .of_eq keep (unwind_after p t)
  | batch actions =>
      refine .of_eq keep ?_
      simp [act, after, Task.after, Function.comp_def]
  | idle => exact .refl _

theorem alike_run_after (task : Task) :
    ((t.after p).run (task.after p)).Alike keep
      ((t.run task).after p) := by
  cases task with
  | act a => exact alike_act_after p t keep a
  | note a => exact .refl _
  | gather n => exact .refl _
  | owe d =>
      cases d with
      | call c => exact .of_eq keep (handCall_after p t c)
      | deliver generation e =>
          exact
            .of_eq keep
              (take_after p t
                (Client.perform_after p t.client
                  (.deliver generation e)))
      | countPing =>
          exact
            .of_eq keep
              (take_after p t
                (Client.perform_after p t.client .countPing))
  | leave slot answers => exact .refl _
  | fireTimer generation =>
      exact
        .of_eq keep
          (take_after p t
            (Client.fireTimer_after p t.now t.client generation))
  | fireAlarm generation token =>
      exact
        .of_eq keep
          (take_after p t
            (Client.fireAlarm_after p t.now t.client generation
              token))

theorem alike_step_after :
    (t.after p).step.Alike keep (t.step.after p) := by
  cases hAgenda : t.agenda with
  | nil =>
      have hAgenda' : (t.after p).agenda = [] := by
        simp [after, hAgenda]
      simp only [step, hAgenda, hAgenda']
      exact .refl _
  | cons task rest =>
      have hAgenda' :
          (t.after p).agenda =
            task.after p :: rest.map (Task.after p) := by
        simp [after, hAgenda]
      simp only [step, hAgenda, hAgenda']
      exact alike_run_after p { t with agenda := rest } keep task

------------------------------------------------------------
-- Runs with a Past
------------------------------------------------------------

@[simp]
theorem isFree_after : (t.after p).isFree = t.isFree := by
  have hAgenda :
      (t.after p).agenda = t.agenda.map (Task.after p) :=
    rfl
  unfold isFree
  rw [hAgenda]
  cases t.agenda with
  | nil => rfl
  | cons task rest => cases task <;> rfl

theorem put_after (task : Task) :
    (t.after p).put (task.after p) = (t.put task).after p := by
  unfold put
  rw [isFree_after]
  split <;> rfl

theorem beginAttempt_after :
    (t.after p).beginAttempt = t.beginAttempt.after p := by
  have hHeld :
      (t.after p).client.link.transport =
        t.client.link.transport.map (· + p.generation) :=
    rfl
  unfold beginAttempt
  rw [hHeld]
  cases t.client.link.transport with
  | none => rfl
  | some generation =>
      cases hAlive : t.alive <;>
        simp [after, hAlive, Observation.after]

/- A move is the same with a past or without one. -/
theorem alike_move_after (m : Move) :
    ((t.after p).move (m.after p)).Alike keep
      ((t.move m).after p) := by
  cases m with
  | step => exact alike_step_after p t keep
  | act a => exact .of_eq keep (put_after p t (.act a))
  | timer generation =>
      have hPut := put_after p t (.fireTimer generation)
      refine .of_eq keep ?_
      simp only [Move.after, move]
      split <;> split <;>
        first | exact hPut | rfl | contradiction
  | alarm generation token =>
      have hPut := put_after p t (.fireAlarm generation token)
      refine .of_eq keep ?_
      simp only [Move.after, move]
      split <;> split <;>
        first | exact hPut | rfl | contradiction
  | wait span =>
      refine .of_eq keep ?_
      simp [Move.after, move, after, Nat.add_right_comm]
  | begin => exact .of_eq keep (beginAttempt_after p t)
  | drop =>
      have hIdle :
          (t.after p).agenda.isEmpty = t.agenda.isEmpty :=
        List.isEmpty_map
      have hHeld : (t.after p).held = t.held := rfl
      refine .of_eq keep ?_
      simp only [Move.after, move, hIdle, hHeld]
      split <;> rfl

/- A run is the same with a past or without one. -/
theorem alike_follow_after (moves : List Move) :
    ((t.after p).follow (moves.map (Move.after p))).Alike keep
      ((t.follow moves).after p) := by
  induction moves generalizing t with
  | nil => exact .refl _
  | cons m moves ih =>
      have hMove := alike_move_after p t keep m
      exact
        (hMove.follow (moves.map (Move.after p))).trans
          (ih (t.move m))

end Turn

end EventFeed
