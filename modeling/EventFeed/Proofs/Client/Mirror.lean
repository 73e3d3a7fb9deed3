import EventFeed.Proofs.Client.Flattening
import EventFeed.Proofs.Client.Guise

/-
  This file says how the turn of a run and that of its flat run
  resemble each other.

  The client of the flat run is in a guise, its handlers listen
  where the others connect and disconnect, and every call that
  the one turn still owes has already been made in the other
  one.  An entry and the operation that stands for it keep it
  that way, as long as they make the same of their clients.

  Key definitions include:
    * `Client.Mirrors`
    * `Turn.Mirrors`
    * `Turn.echoTask`

  Key results include:
    * `Client.Mirrors.apply`
    * `Turn.Mirrors.outcome_switch`
    * `Turn.Mirrors.outcome_root`
    * `Turn.Mirrors.whole`
-/

------------------------------------------------------------
-- Clients That Resemble Each Other
------------------------------------------------------------

namespace EventFeed

/- The guise of a client whose handlers only listen. -/
def Client.mask
    (slipped : Bool)
    (extra pings : UInt64)
    (c : Client) : Guise where
  resets := extra
  pings := pings
  startedAt := if slipped then some c.link.startedAt else none
  handlers := c.handlers

/-
  The other client is in a guise, and its handlers listen where
  those of the first one connect and disconnect.  Only if time
  was kept back can its attempt have been started at another
  instant.
-/
structure Client.Mirrors
    (slipped : Bool)
    (extra pings : UInt64)
    (c c' : Client) : Prop where
  client : c' = c.guise (c'.mask slipped extra pings)
  listening :
    ∀ slot,
      c'.handlers.get slot =
        (c.handlers.get slot).map fun _ => Handler.listener
  switching :
    ∀ slot handler,
      c.handlers.get slot = some handler →
        Handler.isSwitch handler = true

/- What a handler does at a call, and what is left of it. -/
theorem isSwitch_cases
    {handler : Handler}
    (hSwitch : Handler.isSwitch handler = true) :
    (∀ a ∈ handler.headD [], a.isSwitch = true) ∧
      Handler.isSwitch handler.tail = true := by
  cases handler with
  | nil => exact ⟨by simp, rfl⟩
  | cons reaction later =>
      unfold Handler.isSwitch at hSwitch
      rw [List.all_cons, Bool.and_eq_true,
        List.all_eq_true] at hSwitch
      exact hSwitch

namespace Client.Mirrors

variable {slipped : Bool}
variable {extra pings : UInt64}
variable {c c' : Client}
variable {o o' : Outcome}

theorem listener
    (hMirrors : Client.Mirrors slipped extra pings c c')
    (slot : Slot)
    (handler : Handler)
    (hGet : c'.handlers.get slot = some handler) :
    handler = Handler.listener := by
  rw [hMirrors.listening, Option.map_eq_some_iff] at hGet
  rcases hGet with ⟨_, _, hEq⟩
  exact hEq.symm

/- The same calls are heard. -/
theorem heard?_eq
    (hMirrors : Client.Mirrors slipped extra pings c c') :
    Duty.heard? c'.handlers = Duty.heard? c.handlers := by
  funext d
  cases d with
  | call callback =>
      simp [Duty.heard?, Registry.isRegistered,
        hMirrors.listening, Option.isSome_map]
  | _ => rfl

/- What a client is asked about does not depend on the guise. -/
theorem link
    (hMirrors : Client.Mirrors slipped extra pings c c') :
    c'.link.phase = c.link.phase ∧
      c'.link.transport = c.link.transport ∧
      ∀ generation,
        c'.link.isLive generation = c.link.isLive generation := by
  rw [hMirrors.client]
  exact ⟨rfl, rfl, fun _ => rfl⟩

/- A client in a guise is in the one that it shows. -/
theorem eq_guise_mask
    {g : Guise}
    {startedAt : Option (Option Time)}
    (hSlipped : slipped = false → startedAt = none)
    (hClient : c' = c.guise (g.starting startedAt)) :
    c' = c.guise (c'.mask slipped g.resets g.pings) := by
  subst hClient
  cases slipped with
  | false =>
      rw [hSlipped rfl]
      rfl
  | true => cases startedAt <;> rfl

/- It is given up that attempts were started at one instant. -/
theorem slip
    (hMirrors : Client.Mirrors slipped extra pings c c') :
    Client.Mirrors true extra pings c c' := by
  have hClient :
      c' =
        c.guise
          ((c'.mask slipped extra pings).starting
            (c'.mask slipped extra pings).startedAt) :=
    hMirrors.client
  constructor
  · apply eq_guise_mask _ hClient
    simp
  · exact hMirrors.listening
  · exact hMirrors.switching

/- Pings may have been counted beforehand. -/
theorem counted
    (hMirrors : Client.Mirrors slipped extra pings c c')
    (more : UInt64) :
    Client.Mirrors slipped extra (pings + more) c
      { c' with
        tally :=
          { c'.tally with pings := c'.tally.pings + more } } := by
  constructor
  · rw [hMirrors.client]
    cases slipped <;>
      simp [Client.guise, Link.guise, Tally.guise, mask,
        UInt64.add_assoc]
  · exact hMirrors.listening
  · exact hMirrors.switching

/- Sooner or later the pings are counted here as well. -/
theorem recounted
    (hMirrors : Client.Mirrors slipped extra 1 c c') :
    Client.Mirrors slipped extra 0 (c.count .pings) c' := by
  constructor
  · rw [hMirrors.client]
    cases slipped <;>
      simp [Client.guise, Link.guise, Tally.guise, mask,
        Client.count, Tally.count, Tally.add]
  · exact hMirrors.listening
  · exact hMirrors.switching

/-
  Another reset makes no difference to a watch that was reset
  at the same instant.
-/
theorem rearm
    (hMirrors : Client.Mirrors slipped extra pings c c')
    {now : Time}
    (hWatch :
      c.link.keepalive.alarm =
        some (.waiting (now + c.link.keepalive.window))) :
    Client.Mirrors slipped (extra + 1) pings c
      { c' with link := c'.link.arm now } := by
  constructor
  · rw [hMirrors.client]
    cases slipped <;>
      simp [Client.guise, Link.guise, Tally.guise, mask,
        Link.arm, Keepalive.reset, hWatch, UInt64.add_assoc]
  · exact hMirrors.listening
  · exact hMirrors.switching

/- An operation that does not heed the guise keeps it. -/
theorem apply
    (hMirrors : Client.Mirrors slipped extra pings c c')
    (op op' : Client → Outcome)
    (hOp :
      ∀ g : Guise, g.resets = extra →
        (g.startedAt = none → slipped = false) →
          Outcome.Guised g (op c) (op' (c.guise g)))
    (hHandlers : (op c).client.handlers = c.handlers) :
    Client.Mirrors slipped extra pings (op c).client
        (op' c').client ∧
      (op' c').owed = (op c).owed := by
  have hMask :
      (c'.mask slipped extra pings).startedAt = none →
        slipped = false := by
    cases slipped with
    | false => exact fun _ => rfl
    | true => simp [Client.mask]
  have hGuised :=
    hOp (c'.mask slipped extra pings) rfl hMask
  rw [← hMirrors.client] at hGuised
  rcases hGuised.client with ⟨startedAt, hStarted, hClient⟩
  have hSame : (op' c').client.handlers = c'.handlers := by
    rw [hClient]
    rfl
  refine ⟨⟨?_, ?_, ?_⟩, hGuised.owed⟩
  · apply eq_guise_mask _ hClient
    intro hSlipped
    apply hStarted
    rw [hSlipped]
    rfl
  · intro slot
    rw [hSame, hHandlers]
    exact hMirrors.listening slot
  · rw [hHandlers]
    exact hMirrors.switching

/- A handler that is put into a slot listens on the other side. -/
theorem put
    (hMirrors : Client.Mirrors slipped extra pings c c')
    (slot : Slot)
    (handler : Option Handler)
    (hSwitch :
      ∀ h, handler = some h → Handler.isSwitch h = true) :
    Client.Mirrors slipped extra pings
      (c.withHandlers (c.handlers.put slot handler))
      (c'.withHandlers
        (c'.handlers.put slot
          (handler.map fun _ => Handler.listener))) := by
  constructor
  · unfold Client.withHandlers
    rw [hMirrors.client]
    cases slipped <;> rfl
  · intro other
    show
      Registry.get (c'.handlers.put slot _) other =
        (Registry.get (c.handlers.put slot handler) other).map _
    by_cases hSame : other = slot
    · rw [hSame, Registry.get_put_same, Registry.get_put_same]
    · rw [Registry.get_put_of_ne _ _ hSame,
        Registry.get_put_of_ne _ _ hSame]
      exact hMirrors.listening other
  · intro other registered hGet
    have hPut :
        Registry.get (c.handlers.put slot handler) other =
          some registered :=
      hGet
    by_cases hSame : other = slot
    · rw [hSame, Registry.get_put_same] at hPut
      exact hSwitch registered hPut
    · rw [Registry.get_put_of_ne _ _ hSame] at hPut
      exact hMirrors.switching other registered hPut

/- A handler that has reacted once still listens elsewhere. -/
theorem tail
    (hMirrors : Client.Mirrors slipped extra pings c c')
    {slot : Slot}
    {handler : Handler}
    (hGet : c.handlers.get slot = some handler) :
    Client.Mirrors slipped extra pings
      (c.withHandlers (c.handlers.register slot handler.tail))
      c' := by
  have hSwitch := hMirrors.switching slot handler hGet
  have hListener :
      c'.handlers.get slot = some Handler.listener := by
    rw [hMirrors.listening, hGet]
    rfl
  have hPut :=
    hMirrors.put slot (some handler.tail) (by
      intro h hSome
      cases hSome
      exact (isSwitch_cases hSwitch).2)
  have hSame :
      c'.handlers.put slot (some Handler.listener) =
        c'.handlers :=
    Registry.register_of_get hListener
  rw [Option.map_some, hSame] at hPut
  exact hPut

end Client.Mirrors

------------------------------------------------------------
-- Turns That Resemble Each Other
------------------------------------------------------------

namespace Turn

/-
  The other turn is what the flat run has made of it: it has
  nothing left to do, every call that the first one owes has
  been made, and no handler ever did anything.
-/
structure Mirrors
    (s : Echo)
    (pings : UInt64)
    (t t' : Turn) : Prop where
  now : t'.now + s.late = t.now
  punctual : s.slipped = false → s.late = 0
  begun : t'.begun = t.begun
  alive : t'.alive = t.alive
  held : t'.held = t.held
  client :
    Client.Mirrors s.slipped s.extra pings t.client t'.client
  idle : t'.agenda = []
  hearings : t'.hearings = t.hearings ++ t.owedHearings
  passive : ∀ a answer, .did a answer ∉ t'.seen

variable {t t' u : Turn}
variable {s s' : Echo}
variable {pings more : UInt64}
variable {task task' : Task}
variable {rest : List Task}
variable {o o' : Outcome}

theorem heard?_of_isCall
    (r : Registry Handler)
    (hCall : task.isCall = false) :
    task.heard? r = none := by
  cases task with
  | owe d =>
      cases d with
      | call c => contradiction
      | _ => rfl
  | _ => rfl

theorem filterMap_heard?
    (r : Registry Handler)
    {agenda : List Task}
    (hCalls : ∀ task ∈ agenda, task.isCall = false) :
    agenda.filterMap (Task.heard? r) = [] := by
  rw [List.filterMap_eq_nil_iff]
  intro task hMember
  exact heard?_of_isCall r (hCalls task hMember)

/- An observation that is no call is none of the calls. -/
theorem hearings_of_cons
    {o : Observation}
    (hSeen : t'.seen = o :: t.seen)
    (hNone : o.heard? = none) :
    t'.hearings = t.hearings := by
  unfold hearings
  rw [hSeen, List.reverse_cons, List.filterMap_append,
    List.filterMap_cons_none hNone]
  exact List.append_nil _

theorem hearings_take (t : Turn) (o : Outcome) :
    (t.take o).hearings = t.hearings := by
  unfold hearings take
  simp [List.filterMap_append, Observation.heard?,
    Function.comp_def]

theorem hearings_heed
    (u : Turn)
    (owed : List Duty)
    (pings : UInt64)
    (hBrief : Brief owed pings) :
    (u.heed owed pings).hearings =
      u.hearings ++
        owed.filterMap (Duty.heard? u.client.handlers) := by
  cases hBrief <;>
    simp [hearings, heed, List.filterMap_cons, Duty.heard?,
      Observation.heard?]

/- Nothing is owed below the entry that is seen to next. -/
theorem heard?_of_cons
    (hOrderly : t.Orderly)
    (hAgenda : t.agenda = task :: rest)
    (r : Registry Handler) :
    rest.filterMap (Task.heard? r) = [] :=
  filterMap_heard? r (hOrderly.isCall_of_cons hAgenda)

theorem owedHearings_of_cons
    (hOrderly : t.Orderly)
    (hAgenda : t.agenda = task :: rest) :
    t.owedHearings =
      (task.heard? t.client.handlers).toList := by
  unfold owedHearings
  rw [hAgenda, List.filterMap_cons,
    heard?_of_cons hOrderly hAgenda]
  cases task.heard? t.client.handlers <;> rfl

/- No time is kept back, so it is the same instant. -/
theorem Mirrors.now_of_late
    (hMirrors : t.Mirrors s pings t')
    (hLate : s.late = 0) :
    t'.now = t.now := by
  have hNow := hMirrors.now
  rw [hLate] at hNow
  exact hNow

/- The time of a flat run passes with its waits alone. -/
theorem Mirrors.now_eq
    {t₁ t₂ : Turn}
    (hMirrors : t.Mirrors s pings t')
    (hNext : t₁.Mirrors s' more t₂)
    (hLate : s'.late = s.late)
    (hNow : t₁.now = t.now) :
    t₂.now = t'.now := by
  have hAfter := hNext.now
  rw [hLate, hNow, ← hMirrors.now] at hAfter
  exact Nat.add_right_cancel hAfter

/- The time that was kept back passes at last. -/
theorem Mirrors.waited
    (hMirrors : t.Mirrors s pings t') :
    t.Mirrors { s with late := 0 } pings
      (t'.move (.wait s.late)) :=
  { hMirrors with punctual := fun _ => rfl }

/- A connect is permitted on both sides or on neither. -/
theorem Mirrors.permission
    (hMirrors : t.Mirrors s pings t') :
    t'.permission = t.permission := by
  unfold Turn.permission Client.connectRefusal?
  rw [hMirrors.held, hMirrors.client.link.1]

/- A step that is all about handlers is none of a flat run. -/
theorem Mirrors.aside
    {t₁ : Turn}
    (hMirrors : t.Mirrors s pings t')
    (hNow : t₁.now = t.now)
    (hBegun : t₁.begun = t.begun)
    (hAlive : t₁.alive = t.alive)
    (hHeld : t₁.held = t.held)
    (hClient :
      Client.Mirrors s.slipped s.extra more t₁.client t'.client)
    (hHearings :
      t₁.hearings ++ t₁.owedHearings =
        t.hearings ++ t.owedHearings) :
    t₁.Mirrors s more t' where
  now := by
    rw [hNow]
    exact hMirrors.now
  punctual := hMirrors.punctual
  begun := by
    rw [hBegun]
    exact hMirrors.begun
  alive := by
    rw [hAlive]
    exact hMirrors.alive
  held := by
    rw [hHeld]
    exact hMirrors.held
  client := hClient
  idle := hMirrors.idle
  hearings := by
    rw [hHearings]
    exact hMirrors.hearings
  passive := hMirrors.passive

------------------------------------------------------------
-- Operations That Stand for Entries
------------------------------------------------------------

/-
  What the other entry makes of the one client resembles what
  the entry makes of its own, and it owes little.
-/
structure StandsFor
    (slipped : Bool)
    (extra pings more : UInt64)
    (t t' : Turn)
    (task task' : Task) : Prop where
  taken : isTaken task = true
  taken' : isTaken task' = true
  client :
    Client.Mirrors slipped extra pings (t.outcome task).client
      (t'.outcome task').client
  owed :
    ∀ r : Registry Handler,
      (t'.outcome task').owed.filterMap (Duty.heard? r) =
        (t.outcome task).owed.filterMap (Duty.heard? r)
  brief : Brief (t'.outcome task').owed more

variable {extra : UInt64}

theorem StandsFor.isCall
    (hStands :
      StandsFor s.slipped extra pings more t t' task task') :
    task.isCall = false := by
  have hTaken := hStands.taken
  cases task with
  | owe d => cases d <;> first | contradiction | rfl
  | _ => rfl

/- What the flat run owes is what the step makes be owed. -/
theorem StandsFor.hearings
    (hStands :
      StandsFor s.slipped extra pings more t t' task task')
    (hOrderly : t.Orderly)
    (hAgenda : t.agenda = task :: rest) :
    t.step.hearings = t.hearings ∧
      t.owedHearings = [] ∧
      t.step.owedHearings =
        (t'.outcome task').owed.filterMap
          (Duty.heard? (t'.outcome task').client.handlers) := by
  rcases step_eq_take hAgenda hStands.taken with
    ⟨answers, hStep⟩
  have hRest := heard?_of_cons hOrderly hAgenda
  refine ⟨?_, ?_, ?_⟩
  · rw [hStep]
    exact hearings_take { t with agenda := rest } _
  · rw [owedHearings_of_cons hOrderly hAgenda,
      heard?_of_isCall _ hStands.isCall]
    rfl
  · rw [hStands.owed, hStands.client.heard?_eq, hStep]
    simp only [owedHearings, Turn.take, List.filterMap_append,
      hRest, List.append_nil, List.filterMap_map]
    rfl

/-
  Both turns have seen to an operation, and the other one to
  what it owed as well.
-/
theorem Mirrors.take
    (attempt : Nat)
    (hMirrors : t.Mirrors s pings t')
    (hOrderly : t.Orderly)
    (hAgenda : t.agenda = task :: rest)
    (hStands :
      StandsFor s.slipped extra pings more t t' task task') :
    t.step.Mirrors
        { s with attempt := attempt, extra := extra }
        (pings + more) (t'.run task').step.step.step ∧
      (t'.run task').verdicts [.step, .step, .step] = [] := by
  rcases t'.run_eq_take hStands.taken' with ⟨answers', hRun⟩
  have hOwed :
      (t'.run task').agenda =
        (t'.outcome task').owed.map Task.owe := by
    rw [hRun]
    simp [Turn.take, hMirrors.idle]
  have hHandlers :
      ∀ slot handler,
        (t'.run task').client.handlers.get slot = some handler →
          handler = Handler.listener := by
    rw [hRun]
    exact hStands.client.listener
  have hFollow := follow_of_brief hHandlers hStands.brief hOwed
  refine ⟨?_, hFollow.2⟩
  rw [hFollow.1, hRun]
  have hBoth := hStands.hearings hOrderly hAgenda
  rcases step_eq_take hAgenda hStands.taken with
    ⟨answers, hStep⟩
  constructor
  · rw [hStep]
    exact hMirrors.now
  · exact hMirrors.punctual
  · rw [hStep]
    exact hMirrors.begun
  · rw [hStep]
    exact hMirrors.alive
  · rw [hStep]
    exact hMirrors.held
  · rw [hStep]
    exact hStands.client.counted more
  · rfl
  · have hTake :
        Turn.hearings
            { t'.take (t'.outcome task') with
              answers := answers' } =
          t'.hearings :=
      hearings_take t' (t'.outcome task')
    rw [hearings_heed _ _ more hStands.brief, hTake,
      hMirrors.hearings, hBoth.1, hBoth.2.1, hBoth.2.2,
      List.append_nil]
    rfl
  · intro a answer
    simp [heed, Turn.take, hMirrors.passive]

/-
  A step of the one turn is an operation of the other one, with
  all that it leads to.
-/
theorem Mirrors.whole
    (attempt : Nat)
    (hMirrors : t.Mirrors s pings t')
    (hOrderly : t.Orderly)
    (hAgenda : t.agenda = task :: rest)
    (hStands :
      StandsFor s.slipped extra pings more t t' task task')
    {m : Move}
    (hMove : t'.move m = { t' with agenda := [task'] })
    (hQuiet : t'.verdict m = []) :
    t.step.Mirrors
        { s with attempt := attempt, extra := extra }
        (pings + more) (t'.follow m.whole) ∧
      t'.verdicts m.whole =
        Turn.verdict { t' with agenda := [task'] } .step := by
  have hBoth :=
    hMirrors.take attempt hOrderly hAgenda hStands
  rw [follow_whole hMirrors.idle hMove]
  exact
    ⟨hBoth.1,
      verdicts_whole hMirrors.idle hMove hQuiet hBoth.2⟩

------------------------------------------------------------
-- What Entries Make of Clients
------------------------------------------------------------

/- The entry of a flat run that stands for another one. -/
def echoTask (s : Echo) : Task → Task
  | .act (.register slot _) =>
      .act (.register slot Handler.listener)
  | .fireAlarm generation token =>
      .fireAlarm generation (token + s.extra)
  | task => task

/- The instant of a switch makes no difference. -/
theorem Mirrors.outcome_switch
    (hMirrors : t.Mirrors s pings t')
    {a : Action}
    (hSwitch : a.isSwitch = true) :
    Client.Mirrors s.slipped s.extra pings
        (t.outcome (.act a)).client
        (t'.outcome (.act a)).client ∧
      (t'.outcome (.act a)).owed =
        (t.outcome (.act a)).owed := by
  have hClient := hMirrors.client
  cases a with
  | connect =>
      simp only [outcome, hMirrors.held]
      split
      · refine
          hClient.apply (fun c => c.connect t.now)
            (fun c => c.connect t'.now)
            ?_ (t.client.mild_connect t.now).1
        intro g _ hStarted
        apply Client.guised_connect
        intro hNone
        symm
        apply hMirrors.now_of_late
        exact hMirrors.punctual (hStarted hNone)
      · exact ⟨hClient, rfl⟩
  | disconnect =>
      simp only [outcome, hMirrors.held]
      split
      · exact
          hClient.apply Client.disconnect Client.disconnect
            (fun g _ _ => Client.guised_disconnect g t.client)
            rfl
      · exact ⟨hClient, rfl⟩
  | _ => contradiction

/- What is done at one instant is done alike. -/
theorem Mirrors.outcome_root
    (hMirrors : t.Mirrors s pings t')
    (hNow : t'.now = t.now)
    {task : Task}
    (hRoot : task.isRoot = true) :
    Client.Mirrors s.slipped s.extra pings
        (t.outcome task).client
        (t'.outcome (echoTask s task)).client ∧
      (t'.outcome (echoTask s task)).owed =
        (t.outcome task).owed := by
  have hClient := hMirrors.client
  cases task with
  | act a =>
      cases a with
      | report attempt r =>
          simp only [Turn.outcome, echoTask, hMirrors.begun,
            hMirrors.alive, hNow]
          split
          · next generation hBegun =>
              split
              · exact
                  hClient.apply
                    (fun c => c.report t.now generation r)
                    (fun c => c.report t.now generation r)
                    (fun g _ _ =>
                      Client.guised_report g t.client t.now
                        generation r)
                    (t.client.mild_report t.now generation r).1
              · exact ⟨hClient, rfl⟩
          · exact ⟨hClient, rfl⟩
      | register slot reactions =>
          simp only [Turn.outcome, echoTask, hMirrors.held]
          split
          · refine
              ⟨hClient.put slot (some reactions) ?_, rfl⟩
            intro h hSome
            cases hSome
            exact hRoot
          · exact ⟨hClient, rfl⟩
      | unregister slot =>
          simp only [Turn.outcome, echoTask, hMirrors.held]
          split
          · refine ⟨hClient.put slot none ?_, rfl⟩
            intro h hSome
            contradiction
          · exact ⟨hClient, rfl⟩
      | _ => first | exact ⟨hClient, rfl⟩ | contradiction
  | fireTimer generation =>
      simp only [Turn.outcome, echoTask, hNow]
      exact
        hClient.apply (fun c => c.fireTimer t.now generation)
          (fun c => c.fireTimer t.now generation)
          (fun g _ _ =>
            Client.guised_fireTimer g t.client t.now generation)
          (t.client.mild_fireTimer t.now generation).1
  | fireAlarm generation token =>
      simp only [Turn.outcome, echoTask, hNow]
      refine
        hClient.apply
          (fun c => c.fireAlarm t.now generation token)
          (fun c =>
            c.fireAlarm t.now generation (token + s.extra))
          ?_ (t.client.mild_fireAlarm t.now generation token).1
      intro g hResets _
      rw [← hResets]
      exact
        Client.guised_fireAlarm g t.client t.now generation token
  | _ => contradiction

------------------------------------------------------------
-- What Stands for What
------------------------------------------------------------

theorem standsFor_switch
    (hMirrors : t.Mirrors s pings t')
    {a : Action}
    (hSwitch : a.isSwitch = true) :
    StandsFor s.slipped s.extra pings 0 t t' (.act a)
      (.act a) := by
  have hTaken : isTaken (.act a) = true := by
    cases a <;> first | rfl | contradiction
  rcases hMirrors.outcome_switch hSwitch with ⟨hClient, hOwed⟩
  constructor
  · exact hTaken
  · exact hTaken
  · exact hClient
  · intro r
    rw [hOwed]
  · rw [hOwed]
    exact t.brief_switch hSwitch

theorem isTaken_of_isRoot
    (hRoot : task.isRoot = true)
    (hRelease : task ≠ .act .release) :
    isTaken task = true ∧ isTaken (echoTask s task) = true := by
  cases task with
  | act a =>
      cases a <;>
        first | exact ⟨rfl, rfl⟩ | contradiction
  | fireTimer generation => exact ⟨rfl, rfl⟩
  | fireAlarm generation token => exact ⟨rfl, rfl⟩
  | _ => contradiction

theorem standsFor_root
    (hMirrors : t.Mirrors s pings t')
    (hNow : t'.now = t.now)
    (hRoot : task.isRoot = true)
    (hRelease : task ≠ .act .release)
    (hPlain :
      ∀ attempt e, task = .act (.report attempt (.event e)) →
        t.isOpenedBy attempt = false) :
    ∃ more,
      StandsFor s.slipped s.extra pings more t t' task
          (echoTask s task) ∧
        Brief (t.outcome task).owed more := by
  rcases isTaken_of_isRoot (s := s) hRoot hRelease with
    ⟨hTaken, hTaken'⟩
  rcases hMirrors.outcome_root hNow hRoot with
    ⟨hClient, hOwed⟩
  rcases t.brief_root hRoot hPlain with ⟨more, hBrief⟩
  refine ⟨more, ?_, hBrief⟩
  constructor
  · exact hTaken
  · exact hTaken'
  · exact hClient
  · intro r
    rw [hOwed]
  · rw [hOwed]
    exact hBrief

theorem exists_of_isOpenedBy
    {attempt : Nat}
    (hOpens : t.isOpenedBy attempt = true) :
    ∃ generation,
      t.begun[attempt]? = some generation ∧
        t.alive = true ∧
        t.client.link.isLive generation = true ∧
        t.client.link.phase = .connecting := by
  unfold isOpenedBy at hOpens
  split at hOpens
  · next generation hBegun =>
      simp only [isLive, Bool.and_eq_true, beq_iff_eq] at hOpens
      exact
        ⟨generation, hBegun, hOpens.1.1, hOpens.1.2, hOpens.2⟩
  · contradiction

/- An event that opens the connection does so as an opening. -/
theorem standsFor_opening
    (hMirrors : t.Mirrors s pings t')
    (hNow : t'.now = t.now)
    {attempt : Nat}
    {generation : UInt64}
    (hBegun : t.begun[attempt]? = some generation)
    (hAlive : t.alive = true)
    (hLive : t.client.link.isLive generation = true)
    (hPhase : t.client.link.phase = .connecting)
    (e : Event) :
    t.outcome (.act (.report attempt (.event e))) =
        t.client.opening t.now [.deliver generation e] ∧
      StandsFor s.slipped s.extra pings 0 t t'
        (.act (.report attempt (.event e)))
        (.act (.report attempt .opened)) := by
  have hFirst :
      t.outcome (.act (.report attempt .opened)) =
        t.client.opening t.now [] := by
    simp [outcome, hBegun, hAlive, Client.report, hLive, hPhase]
  have hEvent :
      t.outcome (.act (.report attempt (.event e))) =
        t.client.opening t.now [.deliver generation e] := by
    simp [outcome, hBegun, hAlive, Client.report,
      Client.takeEvent, hLive, hPhase]
  have hRoot :
      Task.isRoot (.act (.report attempt .opened)) = true :=
    rfl
  rcases hMirrors.outcome_root hNow hRoot with
    ⟨hClient, hOwed⟩
  rw [hFirst] at hClient hOwed
  unfold echoTask at hClient hOwed
  refine ⟨hEvent, ?_⟩
  constructor
  · rfl
  · rfl
  · rw [hEvent]
    exact hClient
  · intro r
    rw [hOwed, hEvent]
    rfl
  · rw [hOwed]
    exact .call .opened

/-
  An event on its way is delivered as a fresh event is, which
  finds the connection open if the attempt is still live.
-/
theorem standsFor_delivery
    (hMirrors : t.Mirrors s pings t')
    {generation : UInt64}
    (hAlive : t.alive = true)
    (hBegun : t.begun[s.attempt]? = some generation)
    (hOpened :
      t.client.link.isLive generation = true →
        t.client.link.phase = .opened)
    (hWatch :
      t.client.link.phase = .opened →
        t.client.link.keepalive.alarm =
          some
            (.waiting (t'.now + t.client.link.keepalive.window)))
    (e : Event) :
    ∃ more,
      StandsFor s.slipped
          (if t.client.link.isLive generation then
            s.extra + 1
          else
            s.extra)
          pings more t t' (.owe (.deliver generation e))
          (.act (.report s.attempt (.event e))) ∧
        Brief (t.outcome (.owe (.deliver generation e))).owed
          more := by
  rcases hMirrors.client.link with
    ⟨hSamePhase, hSameTransport, hSameLive⟩
  have hOutcome :
      t'.outcome (.act (.report s.attempt (.event e))) =
        t'.client.takeEvent t'.now generation e := by
    simp [outcome, hMirrors.begun, hBegun, hMirrors.alive,
      hAlive, Client.report]
  cases hLive : t.client.link.isLive generation with
  -- the fresh event resets the watch, which was reset at this
  -- instant already, and is accepted as the other one is
  | true =>
      have hPhase := hOpened hLive
      have hRearm := hMirrors.client.rearm (hWatch hPhase)
      rcases brief_accept t.client e with ⟨more, hBrief⟩
      have hAccept :=
        hRearm.apply (fun c => c.accept e) (fun c => c.accept e)
          (fun g _ _ => Client.guised_accept g t.client e) rfl
      have hLeft :
          t.outcome (.owe (.deliver generation e)) =
            t.client.accept e := by
        simp [outcome, Client.perform, hLive]
      have hRight :
          t'.outcome (.act (.report s.attempt (.event e))) =
            Client.accept
              { t'.client with
                link := t'.client.link.arm t'.now } e := by
        simp [hOutcome, Client.takeEvent, hSameLive, hLive,
          hSamePhase, hPhase]
      rw [hLeft]
      refine ⟨more, ?_, hBrief⟩
      constructor
      · rfl
      · rfl
      · rw [hLeft, hRight]
        exact hAccept.1
      · intro r
        rw [hLeft, hRight, hAccept.2]
      · rw [hRight, hAccept.2]
        exact hBrief
  | false =>
      have hLeft :
          t.outcome (.owe (.deliver generation e)) =
            t.client.unchanged := by
        simp [outcome, Client.perform, hLive]
      have hRight :
          t'.outcome (.act (.report s.attempt (.event e))) =
            t'.client.remarked (.staleEvent e.type) := by
        simp [hOutcome, Client.takeEvent, hSameLive, hLive]
      rw [hLeft]
      refine ⟨0, ?_, .none⟩
      constructor
      · rfl
      · rfl
      · rw [hLeft, hRight]
        exact hMirrors.client
      · intro r
        rw [hLeft, hRight]
        rfl
      · rw [hRight]
        exact .none

end Turn

end EventFeed
