import EventFeed.Proofs.Client.Flattening
import EventFeed.Proofs.Client.SingleFlight

/-
  This file says what of a run neither the instants of its
  moves nor the credential of its client have a say in.

  The core of a turn leaves out both, together with answers
  and remarks, which tell of them.  What is left decides on
  what is left of everything that can come of the turn: the
  calls and who hears them, the counters and the phases.

  Key definitions include:
    * `Link.timeless`
    * `Client.core`
    * `Turn.core`
    * `Turn.Akin`

  Key results include:
    * `Turn.core_run`
    * `Turn.core_move`
    * `Turn.Akin.follow`
    * `Turn.Akin.serve`
-/

------------------------------------------------------------
-- Cores
------------------------------------------------------------

namespace EventFeed

/- The link without any instants. -/
def Link.timeless (l : Link) : Link :=
  { l with
    timer := l.timer.map fun t => { t with due := 0 }
    keepalive :=
      { l.keepalive with
        alarm := l.keepalive.alarm.map fun _ => .rung }
    startedAt := none
    openedAt := none }

/- The same without a credential. -/
def Config.bare (config : Config) : Config :=
  { config with credential := none }

/- The client without any instants and without credential. -/
def Client.core (c : Client) : Client :=
  { c with
    config := c.config.bare
    link := c.link.timeless }

/- The outcome without any instants and without remarks. -/
def Outcome.core (o : Outcome) : Outcome :=
  ⟨o.client.core, [], o.owed⟩

/- The observation, if it is a call. -/
def Observation.core? : Observation → Option Observation
  | .call c heard => some (.call c heard)
  | _ => none

namespace Turn

/- What neither instants nor the credential have a say in. -/
def core (t : Turn) : Turn :=
  { t with
    now := 0
    client := t.client.core
    agenda := t.agenda.map Task.gist
    answers := []
    seen := t.seen.filterMap Observation.core? }

/- Two turns differ in nothing else. -/
def Akin (t t' : Turn) : Prop :=
  t.core = t'.core

end Turn

@[simp]
theorem Link.timeless_timeless (l : Link) :
    l.timeless.timeless = l.timeless := by
  simp [timeless, Function.comp_def]

@[simp]
theorem Config.bare_bare (config : Config) :
    config.bare.bare = config.bare :=
  rfl

@[simp]
theorem Client.core_core (c : Client) : c.core.core = c.core := by
  simp [core]

namespace Observation

variable (seen : List Observation)

@[simp]
theorem filterMap_core?_remark (r : Remark) :
    (remark r :: seen).filterMap core? = seen.filterMap core? :=
  rfl

@[simp]
theorem filterMap_core?_did (a : Action) (answer : Answer) :
    (did a answer :: seen).filterMap core? =
      seen.filterMap core? :=
  rfl

@[simp]
theorem filterMap_core?_began
    (kind : Transport.Kind)
    (url : Url) :
    (began kind url :: seen).filterMap core? =
      seen.filterMap core? :=
  rfl

theorem filterMap_core?_remarks (remarks : List Remark) :
    (remarks.map Observation.remark).reverse.filterMap core? =
      [] := by
  rw [List.filterMap_eq_nil_iff]
  intro o hMember
  rw [List.mem_reverse, List.mem_map] at hMember
  rcases hMember with ⟨r, _, rfl⟩
  rfl

theorem core?_core? (o : Observation) :
    o.core?.bind core? = o.core? := by
  cases o <;> rfl

@[simp]
theorem filterMap_core? :
    (seen.filterMap core?).filterMap core? =
      seen.filterMap core? := by
  rw [List.filterMap_filterMap]
  congr 1
  exact funext core?_core?

end Observation

end EventFeed

------------------------------------------------------------
-- Cores of Operations
------------------------------------------------------------

namespace EventFeed

namespace Link

variable (l : Link)
variable (config : Config)
variable (now : Time)

@[simp]
theorem phase_timeless : l.timeless.phase = l.phase :=
  rfl

@[simp]
theorem manual_timeless : l.timeless.manual = l.manual :=
  rfl

@[simp]
theorem generation_timeless :
    l.timeless.generation = l.generation :=
  rfl

@[simp]
theorem isLive_timeless (generation : UInt64) :
    l.timeless.isLive generation = l.isLive generation :=
  rfl

@[simp]
theorem isCurrent_timeless (token : UInt64) :
    l.timeless.keepalive.isCurrent token =
      l.keepalive.isCurrent token := by
  simp [timeless, Keepalive.isCurrent, Keepalive.isArmed]

/- Neither has a say in how a failure is answered. -/
theorem recover_timeless :
    (l.timeless.recover config.bare 0).link.timeless =
        (l.recover config now).link.timeless ∧
      (l.timeless.recover config.bare 0).notice =
        (l.recover config now).notice := by
  have hAttempts : l.timeless.attempts = l.attempts := rfl
  have hAuto : config.bare.autoReconnect = config.autoReconnect :=
    rfl
  have hCeiling : config.bare.maxAttempts = config.maxAttempts :=
    rfl
  simp only [recover, manual_timeless, phase_timeless,
    hAttempts, hAuto, hCeiling]
  split
  · exact ⟨timeless_timeless l, rfl⟩
  · split
    · exact ⟨timeless_timeless l, rfl⟩
    · split
      · simp [giveUp, enter, retire, timeless, Keepalive.stop,
          Function.comp_def]
      · split
        · split <;>
            simp [giveUp, retry, enter, retire, timeless,
              Keepalive.stop, Function.comp_def]
        · simp [retry, enter, retire, timeless, Keepalive.stop]

/- What was armed at another instant is still armed. -/
theorem arm_timeless :
    (l.timeless.arm 0).timeless = (l.arm now).timeless := by
  simp [arm, timeless, Keepalive.reset, Function.comp_def]

end Link

namespace Client

variable (c : Client)
variable (now : Time)

theorem core_unchanged :
    c.core.unchanged.core = c.unchanged.core := by
  simp [unchanged, Outcome.core]

theorem core_remarked (r r' : Remark) :
    (c.core.remarked r).core = (c.remarked r').core := by
  simp [remarked, Outcome.core]

theorem core_connect :
    (c.core.connect 0).core = (c.connect now).core := by
  have hPhase : c.core.link.phase = c.link.phase := rfl
  unfold connect
  rw [hPhase]
  split
  · simp [Outcome.core, core, Link.start, Link.enter,
      Link.retire, Link.timeless, Keepalive.stop,
      Function.comp_def]
  · exact c.core_unchanged

theorem core_disconnect :
    c.core.disconnect.core = c.disconnect.core := by
  simp [Outcome.core, core, disconnect, Link.shut, Link.enter,
    Link.retire, Link.timeless, Keepalive.stop]

theorem core_accept (e : Event) :
    (c.core.accept e).core = (c.accept e).core := by
  simp [Outcome.core, core, accept, count]

theorem core_opening (next : List Duty) :
    (c.core.opening 0 next).core =
      (c.opening now next).core := by
  simp [Outcome.core, core, opening, Link.openUp, Link.enter,
    Link.arm, Link.timeless, Keepalive.reset,
    Function.comp_def]

theorem core_recover (before before' : List Remark) :
    (c.core.recover 0 before).core =
      (c.recover now before').core := by
  have hRecover := c.link.recover_timeless c.config now
  simp only [Outcome.core, recover, core, Config.bare_bare,
    hRecover.1, hRecover.2]

theorem core_report
    (generation : UInt64)
    (r : Report) :
    (c.core.report 0 generation r).core =
      (c.report now generation r).core := by
  have hLink : c.core.link = c.link.timeless := rfl
  cases r with
  | opened =>
      simp only [report, hLink, Link.isLive_timeless,
        Link.phase_timeless]
      split
      · exact c.core_opening now []
      · exact c.core_unchanged
  | event e =>
      simp only [report, takeEvent, hLink,
        Link.isLive_timeless, Link.phase_timeless]
      split
      · split
        · exact c.core_opening now _
        · simp only [Outcome.core, core, accept, count,
            Config.bare_bare, c.link.arm_timeless now]
        · exact c.core_unchanged
      · exact c.core_remarked _ _
  | error e =>
      simp only [report, takeError, hLink,
        Link.isLive_timeless]
      split
      · simp [Outcome.core, core, count]
      · exact c.core_remarked _ _
  | closed =>
      simp only [report, takeEnd, hLink, Link.isLive_timeless]
      split
      · exact
          core_recover
            { c with link := { c.link with transport := none } }
            now [] []
      · exact c.core_unchanged

theorem core_fireTimer (generation : UInt64) :
    (c.core.fireTimer 0 generation).core =
      (c.fireTimer now generation).core := by
  have hLink : c.core.link = c.link.timeless := rfl
  simp only [fireTimer, hLink, Link.manual_timeless,
    Link.phase_timeless, Link.generation_timeless]
  split
  · exact c.core_remarked _ _
  · simp [Outcome.core, core, count, Link.start, Link.enter,
      Link.retire, Link.timeless, Keepalive.stop]

theorem core_fireAlarm (generation token : UInt64) :
    (c.core.fireAlarm 0 generation token).core =
      (c.fireAlarm now generation token).core := by
  have hLink : c.core.link = c.link.timeless := rfl
  simp only [fireAlarm, hLink, Link.manual_timeless,
    Link.phase_timeless, Link.generation_timeless,
    Link.isCurrent_timeless]
  split
  · simp [Outcome.core]
  · exact
      core_recover
        { c with
          link :=
            { c.link with keepalive := c.link.keepalive.stop } }
        now _ _

theorem core_perform (d : Duty) :
    (c.core.perform d).core = (c.perform d).core := by
  have hLink : c.core.link = c.link.timeless := rfl
  cases d with
  | call callback => exact c.core_unchanged
  | deliver generation e =>
      simp only [perform, hLink, Link.isLive_timeless]
      split
      · exact c.core_accept e
      · exact c.core_unchanged
  | countPing => simp [perform, Outcome.core, core, count]

end Client

end EventFeed

------------------------------------------------------------
-- Cores of Moves
------------------------------------------------------------

namespace EventFeed

namespace Turn

variable (t : Turn)

@[simp]
theorem core_core : t.core.core = t.core := by
  simp [core, Function.comp_def]

/- Outcomes with one core leave turns with one core. -/
theorem core_take
    {o o' : Outcome}
    (hCore : o'.core = o.core) :
    (t.core.take o').core = (t.take o).core := by
  have hClient : o'.client.core = o.client.core :=
    (congrArg Outcome.client hCore :)
  have hOwed : o'.owed = o.owed :=
    (congrArg Outcome.owed hCore :)
  simp only [core, take, hClient, hOwed, List.map_append,
    List.filterMap_append, Observation.filterMap_core?_remarks,
    Observation.filterMap_core?, List.map_map,
    Function.comp_def, Task.gist_gist]

theorem core_withHandlers (handlers : Registry Handler) :
    { t.core with
        client := t.core.client.withHandlers handlers }.core =
      { t with client := t.client.withHandlers handlers }.core := by
  simp [core, Client.core, Client.withHandlers,
    Function.comp_def]

theorem core_ifHeld
    {go : Turn → Turn}
    (hGo : (go t.core).core = (go t).core) :
    (t.core.ifHeld go).core = (t.ifHeld go).core := by
  have hHeld : t.core.held = t.held := rfl
  unfold ifHeld
  rw [hHeld]
  split
  · exact hGo
  · exact core_core t

theorem core_withAttempt
    {attempt : Nat}
    {go go' : UInt64 → Turn}
    (hGo : ∀ generation,
      (go' generation).core = (go generation).core) :
    (t.core.withAttempt attempt go').core =
      (t.withAttempt attempt go).core := by
  have hBegun : t.core.begun = t.begun := rfl
  unfold withAttempt
  rw [hBegun]
  split
  · exact hGo _
  · exact core_core t

theorem core_answer (q : Query) : (t.answer q).core = t.core := by
  rcases answer_eq t q with ⟨answers, hAnswer⟩
  rw [hAnswer]
  rfl

theorem core_unwind : t.core.unwind.core = t.unwind.core := by
  have hDrop :
      t.core.agenda.dropWhile (fun task => !task.isReturn) =
        (t.agenda.dropWhile fun task => !task.isReturn).map
          Task.gist := by
    simp [core, List.dropWhile_map, Function.comp_def]
  unfold unwind
  rw [hDrop]
  cases t.agenda.dropWhile fun task => !task.isReturn with
  | nil => simp [core]
  | cons task rest =>
      cases task with
      | leave slot answers =>
          simp [core, Function.comp_def]
      | _ => simp [core, Task.gist]

theorem core_act (a : Action) :
    (t.core.act a).core = (t.act a).core := by
  have hClient : t.core.client = t.client.core := rfl
  have hNow : t.core.now = 0 := rfl
  cases a with
  | connect =>
      have hRefusal :
          t.client.core.connectRefusal? =
            t.client.connectRefusal? := rfl
      apply core_ifHeld
      simp only [hClient, hRefusal, hNow]
      split
      · exact core_core t
      · exact t.core_take (t.client.core_connect t.now)
  | disconnect =>
      exact t.core_ifHeld (t.core_take t.client.core_disconnect)
  | report attempt r =>
      have hAlive : t.core.alive = t.alive := rfl
      apply core_withAttempt
      intro generation
      rw [hAlive]
      split
      · exact
          t.core_take (t.client.core_report t.now generation r)
      · exact core_core t
  | register slot reactions =>
      exact t.core_ifHeld (t.core_withHandlers _)
  | unregister slot =>
      exact t.core_ifHeld (t.core_withHandlers _)
  | ask q =>
      simp only [act, core_answer]
      exact core_core t
  | release => simp [core, act, reply, Function.comp_def]
  | panic => exact core_unwind t
  | batch actions => simp [core, act, Function.comp_def]
  | idle => exact core_core t

theorem core_handCall (c : Callback) :
    (t.core.handCall c).core = (t.handCall c).core := by
  have hHandlers :
      t.core.client.handlers = t.client.handlers := rfl
  unfold handCall
  rw [hHandlers]
  split <;>
    simp [core, Client.core, Client.withHandlers,
      Observation.core?, Function.comp_def]

/- The core decides on the core of what an entry leads to. -/
theorem core_run (task : Task) :
    (t.core.run task.gist).core = (t.run task).core := by
  cases task with
  | act a => exact core_act t a
  | note a => simp [core, run, Function.comp_def]
  | gather n => simp [core, run, Function.comp_def]
  | owe d =>
      cases d with
      | call c => exact core_handCall t c
      | _ => exact t.core_take (t.client.core_perform _)
  | leave slot answers => exact core_core t
  | fireTimer generation =>
      exact
        t.core_take (t.client.core_fireTimer t.now generation)
  | fireAlarm generation token =>
      exact
        t.core_take
          (t.client.core_fireAlarm t.now generation token)

theorem core_step : t.core.step.core = t.step.core := by
  cases hAgenda : t.agenda with
  | nil => simp [step, core, hAgenda]
  | cons task rest =>
      have hFirst :
          t.core.step =
            ({ t with agenda := rest }.core).run task.gist := by
        simp [step, core, hAgenda]
      rw [hFirst, core_run]
      simp [step, hAgenda]

theorem core_put (task : Task) :
    (t.core.put task).core = (t.put task).core := by
  have hFree : t.core.isFree = t.isFree :=
    t.isFree_gist fun _ => false
  unfold put
  rw [hFree]
  split
  · simp [core, Function.comp_def]
  · exact core_core t

theorem core_beginAttempt :
    t.core.beginAttempt.core = t.beginAttempt.core := by
  have hHeld :
      t.core.client.link.transport = t.client.link.transport :=
    rfl
  have hAlive : t.core.alive = t.alive := rfl
  unfold beginAttempt
  rw [hHeld, hAlive]
  split
  · split
    · simp [core, Function.comp_def]
    · exact core_core t
  · exact core_core t

/- And of what a move leads to. -/
theorem core_move (m : Move) :
    (t.core.move m).core = (t.move m).core := by
  have hAlive : t.core.alive = t.alive := rfl
  cases m with
  | step => exact core_step t
  | act a => exact core_put t _
  | timer generation =>
      simp only [move, hAlive]
      split
      · exact core_put t _
      · exact core_core t
  | alarm generation token =>
      simp only [move, hAlive]
      split
      · exact core_put t _
      · exact core_core t
  | wait span => simp [core, move, Function.comp_def]
  | begin => exact core_beginAttempt t
  | drop =>
      have hOver :
          (t.core.agenda.isEmpty && !t.core.held) =
            (t.agenda.isEmpty && !t.held) := by
        simp [core]
      simp only [move, hOver]
      split
      · simp [core, Function.comp_def]
      · exact core_core t

@[simp]
theorem weight_core : t.core.weight = t.weight :=
  t.weight_gist fun _ => false

theorem core_runFor (n : Nat) :
    (runFor n t.core).core = (runFor n t).core := by
  induction n generalizing t with
  | zero => exact core_core t
  | succ n ih =>
      cases hAgenda : t.agenda with
      | nil => simp [runFor, core, hAgenda]
      | cons task rest =>
          have hCons :
              t.core.agenda =
                task.gist :: rest.map Task.gist := by
            simp only [core, hAgenda, List.map_cons]
          have hStep :
              (runFor n t.core.step).core =
                (runFor n t.step).core := by
            rw [← ih t.core.step, core_step, ih]
          simpa [runFor, hAgenda, hCons] using hStep

theorem core_finish : t.core.finish.core = t.finish.core := by
  unfold finish
  rw [weight_core]
  exact core_runFor t t.weight

end Turn

end EventFeed

------------------------------------------------------------
-- Turns That Are Akin
------------------------------------------------------------

namespace EventFeed

namespace Turn

namespace Akin

variable {t t' t'' : Turn}

theorem refl (t : Turn) : t.Akin t :=
  rfl

theorem symm (hAkin : t.Akin t') : t'.Akin t :=
  Eq.symm hAkin

theorem trans
    (hFirst : t.Akin t')
    (hSecond : t'.Akin t'') :
    t.Akin t'' :=
  Eq.trans hFirst hSecond

/- Whatever goes by the core of a turn keeps turns akin. -/
theorem of_core
    {f : Turn → Turn}
    (hCore : ∀ t, (f t.core).core = (f t).core)
    (hAkin : t.Akin t') :
    (f t).Akin (f t') := by
  unfold Akin at *
  rw [← hCore t, ← hCore t', hAkin]

theorem move (hAkin : t.Akin t') (m : Move) :
    (t.move m).Akin (t'.move m) :=
  hAkin.of_core (f := (·.move m)) fun t => core_move t m

theorem finish (hAkin : t.Akin t') :
    t.finish.Akin t'.finish :=
  hAkin.of_core core_finish

/- Turns stay akin when their agendas are set alike. -/
theorem withAgenda
    (hAkin : t.Akin t')
    {agenda agenda' : List Task}
    (hAgenda : agenda.map Task.gist = agenda'.map Task.gist) :
    Akin { t with agenda := agenda }
      { t' with agenda := agenda' } := by
  simp_all [Akin, core]

theorem agenda (hAkin : t.Akin t') :
    t.agenda.map Task.gist = t'.agenda.map Task.gist :=
  (congrArg Turn.agenda hAkin :)

theorem serve
    (hAkin : t.Akin t')
    (signal : Task) :
    (t.serve signal).Akin (t'.serve signal) :=
  (hAkin.withAgenda rfl).finish.withAgenda hAkin.agenda

theorem follow (hAkin : t.Akin t') (moves : List Move) :
    (t.follow moves).Akin (t'.follow moves) := by
  induction moves generalizing t t' with
  | nil => exact hAkin
  | cons m moves ih => exact ih (hAkin.move m)

end Akin

end Turn

end EventFeed
