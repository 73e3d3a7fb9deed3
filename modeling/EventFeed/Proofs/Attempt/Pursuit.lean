import EventFeed.Attempt.Course
import EventFeed.Proofs.Client.Settled
import EventFeed.Session

/-
  This file says what an attempt tells a client that nobody
  else disturbs.

  While an attempt makes its moves, nothing else comes to the
  client and the handlers are calm.  Then what is called can
  be read off the course: each report leads to its call, the
  first good sign tells of the opening before, and the end is
  answered by one notice.  Pauses make no difference.

  Key definitions include:
    * `Turn.callbacks`
    * `Turn.pursue`
    * `Told`
    * `Course.told`
    * `Config.answer`
    * `Turn.Underway`
    * `Turn.Concluded`

  Key results include:
    * `Turn.Underway.pursue`
    * `Session.alike_play`
-/

------------------------------------------------------------
-- Pursuits
------------------------------------------------------------

namespace EventFeed

/- The call that was observed. -/
def Observation.callback? : Observation → Option Callback
  | .call c _ => some c
  | _ => none

/- The call that a sign is. -/
def Sign.callback? : Sign → Option Callback
  | .call c => some c
  | .connect => none

/- Whether the move is a pause. -/
def Move.isPause : Move → Bool
  | .wait _ => true
  | _ => false

/- A course without its pauses. -/
def Course.unpaused (course : Course) : Course :=
  course.filter fun m => !m.isPause

namespace Turn

/- The calls of a run so far, in order. -/
def callbacks (t : Turn) : List Callback :=
  t.seen.reverse.filterMap Observation.callback?

/-
  Let an attempt make the moves of its course, while nothing
  else comes to the client.  A report is served with all that
  it leads to; a pause lets time pass.
-/
def pursue
    (t : Turn)
    (attempt : Nat)
    (generation : UInt64) :
    Course → Turn
  | [] => t
  | .report r :: rest =>
      (t.serve (.act (.report attempt r))).pursue attempt
        generation rest
  | .remark r :: rest =>
      pursue { t with seen := .remark r :: t.seen } attempt
        generation rest
  | .check r :: rest =>
      if t.isLive generation then
        t.pursue attempt generation rest
      else
        { t with
          seen := (r.map Observation.remark).toList ++ t.seen }
  | .wait span :: rest =>
      pursue { t with now := t.now + span } attempt generation
        rest
  | .hold :: _ => t

end Turn

end EventFeed

------------------------------------------------------------
-- What a Course Tells
------------------------------------------------------------

namespace EventFeed

/-
  What an attempt tells: the calls it leads to, whether it
  opens the connection, and whether it ends.
-/
structure Told where
  calls : List Callback
  opens : Bool
  ends : Bool
deriving Inhabited, Repr

/- The same after some calls. -/
def Told.after (calls : List Callback) (later : Told) : Told :=
  { later with calls := calls ++ later.calls }

/-
  What a course tells while its attempt is live, when the
  connection is open already or not.
-/
def Course.told (opened : Bool) : Course → Told
  | [] => ⟨[], opened, false⟩
  | .report .opened :: rest =>
      (told true rest).after (if opened then [] else [.opened])
  | .report (.event e) :: rest =>
      (told true rest).after
        (if opened then [e.callback]
        else [.opened, e.callback])
  | .report (.error e) :: rest =>
      (told opened rest).after [.error e]
  | .report .closed :: _ => ⟨[], opened, true⟩
  | .hold :: _ => ⟨[], opened, false⟩
  | .remark _ :: rest => told opened rest
  | .check _ :: rest => told opened rest
  | .wait _ :: rest => told opened rest

/-
  The notice that answers a failure after the given number of
  attempts in a row.
-/
def Config.answer
    (config : Config)
    (attempts : UInt32) : Notice :=
  if config.autoReconnect &&
      config.maxAttempts.all (attempts < ·) then
    .reconnecting (attempts + 1)
  else
    .closed

/- The attempts in a row when the attempt has been made. -/
def Told.attempts (told : Told) (before : UInt32) : UInt32 :=
  if told.opens then 0 else before

/-
  All calls that an attempt leads to, the answer to its end
  included.
-/
def Told.callbacks
    (config : Config)
    (attempts : UInt32)
    (told : Told) : List Callback :=
  told.calls ++
    if told.ends then
      [(config.answer (told.attempts attempts)).callback]
    else
      []

namespace Told

variable {config : Config}
variable {attempts : UInt32}

theorem callbacks_after
    (calls : List Callback)
    (later : Told) :
    (later.after calls).callbacks config attempts =
      calls ++ later.callbacks config attempts :=
  List.append_assoc _ _ _

end Told

namespace Course

/- An open connection stays open until the attempt ends. -/
theorem opens_told_true (course : Course) :
    (course.told true).opens = true := by
  induction course with
  | nil => rfl
  | cons m rest ih =>
      cases m with
      | report r => cases r <;> first | rfl | exact ih
      | hold => rfl
      | _ => exact ih

/- Pauses tell nothing. -/
theorem told_unpaused
    (opened : Bool)
    (course : Course) :
    course.unpaused.told opened = course.told opened := by
  induction course generalizing opened with
  | nil => rfl
  | cons m rest ih =>
      unfold unpaused at ih ⊢
      cases m with
      | report r =>
          rw [List.filter_cons_of_pos rfl]
          cases r <;> simp only [told, ih]
      | wait span =>
          rw [List.filter_cons_of_neg (by simp [Move.isPause])]
          exact ih opened
      | hold =>
          rw [List.filter_cons_of_pos rfl]
          rfl
      | remark r =>
          rw [List.filter_cons_of_pos rfl]
          exact ih opened
      | check r =>
          rw [List.filter_cons_of_pos rfl]
          exact ih opened

end Course

end EventFeed

------------------------------------------------------------
-- Answers to the End of an Attempt
------------------------------------------------------------

namespace EventFeed

namespace Link

/- The link is as the answer to a failure says. -/
def Heeds (l : Link) : Notice → Prop
  | .reconnecting attempts =>
      l.phase = .reconnecting ∧
        l.manual = false ∧ l.attempts = attempts
  | _ => l.phase = .closed

/- A link gives up when this is the answer to its failure. -/
theorem answer_of_endsWith
    {config : Config}
    {l : Link}
    {why : Remark}
    (hWhy : l.EndsWith config why) :
    config.answer l.attempts = .closed := by
  unfold Config.answer
  cases hWhy with
  | lost hAuto => simp [hAuto]
  | gaveUp hAuto ceiling hCeiling hSpent =>
      simp [hAuto, hCeiling, UInt32.not_lt.mpr hSpent]

/- A link waits when this is the answer to its failure. -/
theorem answer_of_budget
    {config : Config}
    {l : Link}
    (hAuto : config.autoReconnect = true)
    (hBudget :
      ∀ ceiling, config.maxAttempts = some ceiling →
        l.attempts < ceiling) :
    config.answer l.attempts =
      .reconnecting (l.attempts + 1) := by
  have hAll : config.maxAttempts.all (l.attempts < ·) = true := by
    cases hCeiling : config.maxAttempts with
    | none => rfl
    | some ceiling => simpa using hBudget ceiling hCeiling
  simp [Config.answer, hAuto, hAll]

/- An active link is recovered by the one answer there is. -/
theorem recover_answer
    {l : Link}
    (config : Config)
    (now : Time)
    (hManual : l.manual = false)
    (hActive : l.phase.isActive = true) :
    (l.recover config now).notice =
        some (config.answer l.attempts) ∧
      (l.recover config now).link.Heeds
          (config.answer l.attempts) ∧
        (l.recover config now).link.generation =
          l.generation + 1 := by
  rcases recover_cases config now hManual hActive with
    ⟨why, hWhy, hEq⟩ | ⟨hAuto, hBudget, hEq⟩
  · rw [hEq, answer_of_endsWith hWhy]
    exact ⟨rfl, rfl, rfl⟩
  · rw [hEq, answer_of_budget hAuto hBudget]
    exact ⟨rfl, ⟨rfl, hManual, rfl⟩, rfl⟩

end Link

end EventFeed

------------------------------------------------------------
-- Attempts Under Way
------------------------------------------------------------

namespace EventFeed

namespace Turn

/-
  An attempt is under way: it has begun and is live, and the
  connection is open or not yet.
-/
structure Underway
    (t : Turn)
    (attempt : Nat)
    (generation : UInt64)
    (opened : Bool) : Prop where
  alive : t.alive = true
  handlers : t.client.handlers.Calm
  begun : t.begun[attempt]? = some generation
  live : t.client.link.isLive generation = true
  phase :
    t.client.link.phase =
      if opened then .opened else .connecting
  fresh : opened = true → t.client.link.attempts = 0

/- An attempt told what it had to tell. -/
structure Concluded
    (t : Turn)
    (told : Told)
    (t' : Turn) : Prop where
  alive : t'.alive = true
  handlers : t'.client.handlers.Calm
  config : t'.client.config = t.client.config
  callbacks :
    t'.callbacks =
      t.callbacks ++
        told.callbacks t.client.config t.client.link.attempts
  ended :
    told.ends = true →
      t'.client.link.Heeds
        (t.client.config.answer
          (told.attempts t.client.link.attempts))
  unended :
    told.ends = false →
      t'.client.link.phase.isActive = true

variable {t t' t'' : Turn}
variable {attempt : Nat}
variable {generation : UInt64}
variable {opened : Bool}

/- Calls are signs. -/
theorem callbacks_eq (t : Turn) :
    t.callbacks = t.signs.filterMap Sign.callback? := by
  unfold callbacks signs
  rw [List.filterMap_filterMap]
  congr 1
  funext o
  cases o with
  | remark r => cases r <;> rfl
  | _ => rfl

/- A remark is no call. -/
theorem callbacks_remark (t : Turn) (r : Remark) :
    callbacks { t with seen := .remark r :: t.seen } =
      t.callbacks := by
  unfold callbacks
  rw [List.reverse_cons, List.filterMap_append]
  exact List.append_nil _

/- Answers and remarks do not change what was called. -/
theorem Alike.callbacks
    {keep : Remark → Bool}
    (hAlike : t.Alike keep t') :
    t.callbacks = t'.callbacks := by
  have hGist :
      ∀ t : Turn, (t.gist keep).callbacks = t.callbacks := by
    intro t
    unfold Turn.callbacks gist
    rw [← List.filterMap_reverse, List.filterMap_filterMap]
    congr 1
    funext o
    cases o with
    | remark r =>
        show (if keep r then _ else none).bind _ = none
        cases keep r <;> rfl
    | _ => rfl
  rw [← hGist t, hAlike, hGist t']

theorem Served.callbacks
    {o : Outcome}
    (hServed : t.Served o t') :
    t'.callbacks =
      t.callbacks ++
        (o.owed.flatMap Duty.signs).filterMap
          Sign.callback? := by
  rw [callbacks_eq, hServed.signs, List.filterMap_append,
    ← callbacks_eq]

namespace Underway

theorem isActive
    (hUnderway : t.Underway attempt generation opened) :
    t.client.link.phase.isActive = true := by
  rw [hUnderway.phase]
  cases opened <;> rfl

theorem isLive
    (hUnderway : t.Underway attempt generation opened) :
    t.isLive generation = true := by
  rw [Turn.isLive, hUnderway.alive, hUnderway.live]
  rfl

/- The attempt goes on after a report that does not end it. -/
theorem served
    (hUnderway : t.Underway attempt generation opened)
    {o : Outcome}
    (hServed : t.Served o t')
    {opened' : Bool}
    (hLive : o.client.link.isLive generation = true)
    (hPhase :
      o.client.link.phase =
        if opened' then .opened else .connecting)
    (hFresh : opened' = true → o.client.link.attempts = 0) :
    t'.Underway attempt generation opened' where
  alive := hServed.alive.trans hUnderway.alive
  handlers := hServed.handlers
  begun := by
    rw [hServed.begun]
    exact hUnderway.begun
  live := by
    rw [hServed.link]
    exact hLive
  phase := by
    rw [hServed.link]
    exact hPhase
  fresh := by
    rw [hServed.link]
    exact hFresh

theorem serve
    (hUnderway : t.Underway attempt generation opened)
    (r : Report) :
    t.Served (t.client.report t.now generation r)
      (t.serve (.act (.report attempt r))) :=
  served_report hUnderway.handlers hUnderway.alive
    hUnderway.begun r

end Underway

/- What is told later is told after what was called before. -/
theorem Concluded.after
    {o : Outcome}
    (hServed : t.Served o t')
    {later : Told}
    (hConcluded : t'.Concluded later t'')
    (hAttempts :
      o.client.link.attempts = t.client.link.attempts ∨
        (later.opens = true ∧ o.client.link.attempts = 0)) :
    t.Concluded
      (later.after
        ((o.owed.flatMap Duty.signs).filterMap Sign.callback?))
      t'' := by
  have hBudget :
      later.attempts t'.client.link.attempts =
        later.attempts t.client.link.attempts := by
    rw [hServed.link]
    rcases hAttempts with hSame | ⟨hOpens, hNone⟩
    · rw [hSame]
    · unfold Told.attempts
      rw [hOpens]
      rfl
  refine
    ⟨hConcluded.alive, hConcluded.handlers,
      hConcluded.config.trans hServed.config, ?_, ?_,
      hConcluded.unended⟩
  · rw [hConcluded.callbacks, hServed.callbacks,
      Told.callbacks_after, hServed.config, List.append_assoc]
    unfold Told.callbacks
    rw [hBudget]
  · intro hEnds
    have hHeeds := hConcluded.ended hEnds
    rw [hServed.config, hBudget] at hHeeds
    exact hHeeds

/- An attempt that is retired tells nothing any more. -/
theorem pursue_of_retired
    (hBegun : t.begun[attempt]? = some generation)
    (hRetired : t.isLive generation = false)
    (course : Course) :
    (t.pursue attempt generation course).callbacks =
        t.callbacks ∧
      (t.pursue attempt generation course).client = t.client ∧
      (t.pursue attempt generation course).alive = t.alive := by
  induction course generalizing t with
  | nil => exact ⟨rfl, rfl, rfl⟩
  | cons m rest ih =>
      cases m with
      | report r =>
          have hLate : t.IsLate (.act (.report attempt r)) :=
            .report attempt generation r hBegun hRetired
          have hAlike :
              t.Alike Remark.isMilestone
                (t.serve (.act (.report attempt r))) :=
            hLate.alike_serve fun _ hStale =>
              Remark.isMilestone_of_isStale hStale
          have hClient := congrArg Turn.client hAlike
          have hAlive := congrArg Turn.alive hAlike
          have hList := congrArg Turn.begun hAlike
          simp only [client_gist, alive_gist, begun_gist]
            at hClient hAlive hList
          have hRest := ih
            (t := t.serve (.act (.report attempt r)))
            (by rw [← hList]; exact hBegun)
            (by
              unfold isLive at hRetired ⊢
              rw [← hClient, ← hAlive]
              exact hRetired)
          unfold pursue
          refine
            ⟨hRest.1.trans ?_, hRest.2.1.trans hClient.symm,
              hRest.2.2.trans hAlive.symm⟩
          exact hAlike.callbacks.symm
      | remark r =>
          have hRest :=
            ih (t := { t with seen := .remark r :: t.seen })
              hBegun hRetired
          rw [callbacks_remark] at hRest
          exact hRest
      | check r =>
          unfold pursue
          rw [hRetired]
          refine ⟨?_, rfl, rfl⟩
          cases r <;> simp [callbacks, Observation.callback?]
      | wait span => exact ih hBegun hRetired
      | hold => exact ⟨rfl, rfl, rfl⟩

/- The end of an attempt is answered. -/
theorem Underway.closed
    (hUnderway : t.Underway attempt generation opened)
    (hServed :
      t.Served (t.client.report t.now generation .closed) t') :
    t.Concluded ⟨[], opened, true⟩ t' ∧
      t'.begun[attempt]? = some generation ∧
        t'.isLive generation = false := by
  have hManual := (Effect.manual_of_isLive hUnderway.live).2
  have hEnd :
      t.client.report t.now generation .closed =
        t.client.recover t.now [] :=
    Effect.takeEnd_eq_recover hUnderway.live hUnderway.isActive
  rcases
    Link.recover_answer t.client.config t.now hManual
      hUnderway.isActive with ⟨hNotice, hHeeds, hNext⟩
  have hAttempts :
      Told.attempts ⟨[], opened, true⟩ t.client.link.attempts =
        t.client.link.attempts := by
    unfold Told.attempts
    cases opened with
    | true => exact (hUnderway.fresh rfl).symm
    | false => rfl
  rw [hEnd] at hServed
  refine ⟨⟨?_, hServed.handlers, hServed.config, ?_, ?_, ?_⟩, ?_, ?_⟩
  · exact hServed.alive.trans hUnderway.alive
  · rw [hServed.callbacks]
    simp [Client.recover, hNotice, Client.noticeDuty,
      Told.callbacks, hAttempts, Duty.signs, Sign.callback?]
  · intro _
    rw [hServed.link, hAttempts]
    exact hHeeds
  · intro hEnds
    contradiction
  · rw [hServed.begun]
    exact hUnderway.begun
  · have hPast :
        t'.client.link.generation ≠ generation := by
      rw [hServed.link,
        ← (Effect.manual_of_isLive hUnderway.live).1]
      exact ne_of_eq_of_ne hNext (by simp)
    simp [Turn.isLive, Link.isLive, hPast]

/-
  A report tells its calls, and the attempt is still under way
  after it: what is concluded then is concluded from here, with
  those calls before.
-/
def Tells
    (t : Turn)
    (attempt : Nat)
    (generation : UInt64)
    (opened : Bool)
    (r : Report) : Prop :=
  ∃ opened' calls,
    (∀ rest, Course.told opened (.report r :: rest) =
      (Course.told opened' rest).after calls) ∧
    (t.serve (.act (.report attempt r))).Underway attempt
        generation opened' ∧
      ∀ later t'',
        (opened' = true → later.opens = true) →
          (t.serve (.act (.report attempt r))).Concluded
            later t'' →
            t.Concluded (later.after calls) t''

/-
  What a report that does not end the attempt makes of the
  client says what it tells: the connection is as open as the
  course has it, and reconnects are only forgotten as it opens.
-/
theorem Underway.reported
    (hUnderway : t.Underway attempt generation opened)
    {r : Report}
    {o : Outcome}
    {opened' : Bool}
    {calls : List Callback}
    (hReport : t.client.report t.now generation r = o)
    (hTold :
      ∀ rest, Course.told opened (.report r :: rest) =
        (Course.told opened' rest).after calls)
    (hLive : o.client.link.isLive generation = true)
    (hPhase :
      o.client.link.phase =
        if opened' then .opened else .connecting)
    (hCalls :
      (o.owed.flatMap Duty.signs).filterMap Sign.callback? =
        calls)
    (hAttempts :
      (opened' = opened ∧
          o.client.link.attempts = t.client.link.attempts) ∨
        (opened' = true ∧ o.client.link.attempts = 0)) :
    t.Tells attempt generation opened r := by
  have hServed := hUnderway.serve r
  rw [hReport] at hServed
  refine ⟨opened', calls, hTold, ?_, ?_⟩
  · apply hUnderway.served hServed hLive hPhase
    intro hOpened
    rcases hAttempts with ⟨hAsBefore, hSame⟩ | ⟨_, hNone⟩
    · rw [hSame]
      apply hUnderway.fresh
      rw [← hAsBefore]
      exact hOpened
    · exact hNone
  · intro later t'' hOpens hConcluded
    rw [← hCalls]
    apply hConcluded.after hServed
    rcases hAttempts with ⟨_, hSame⟩ | ⟨hOpened, hNone⟩
    · exact Or.inl hSame
    · exact Or.inr ⟨hOpens hOpened, hNone⟩

/- A report that does not end the attempt tells its calls. -/
theorem Underway.report
    (hUnderway : t.Underway attempt generation opened)
    (r : Report)
    (hEnd : r ≠ .closed) :
    t.Tells attempt generation opened r := by
  have hLive := hUnderway.live
  have hPhase := hUnderway.phase
  cases r with
  | closed => contradiction
  | error e =>
      have hError :
          t.client.report t.now generation (.error e) =
            ⟨t.client.count .errors, [.failed e],
              [.call (.error e)]⟩ := by
        simp [Client.report, Client.takeError, hLive]
      exact
        hUnderway.reported hError (fun _ => rfl) hLive hPhase
          rfl (Or.inl ⟨rfl, rfl⟩)
  | opened =>
      cases opened with
      | true =>
          have hNothing :
              t.client.report t.now generation .opened =
                t.client.unchanged := by
            simp [Client.report, hPhase]
          exact
            hUnderway.reported hNothing (fun _ => rfl) hLive
              hPhase rfl (Or.inl ⟨rfl, rfl⟩)
      | false =>
          have hOpening :
              t.client.report t.now generation .opened =
                t.client.opening t.now [] := by
            simp [Client.report, hLive, hPhase]
          exact
            hUnderway.reported hOpening (fun _ => rfl) hLive
              rfl rfl (Or.inr ⟨rfl, rfl⟩)
  | event e =>
      cases opened with
      | true =>
          have hAccept :
              t.client.report t.now generation (.event e) =
                Client.accept
                  { t.client with
                    link := t.client.link.arm t.now } e := by
            simp [Client.report, Client.takeEvent, hLive,
              hPhase]
          have hOwed :
              ((Client.accept
                  { t.client with
                    link := t.client.link.arm t.now }
                  e).owed.flatMap Duty.signs).filterMap
                Sign.callback? =
                  [e.callback] := by
            unfold Client.accept
            cases e.isPing <;> rfl
          exact
            hUnderway.reported hAccept (fun _ => rfl) hLive
              hPhase hOwed (Or.inl ⟨rfl, rfl⟩)
      | false =>
          have hOpening :
              t.client.report t.now generation (.event e) =
                t.client.opening t.now
                  [.deliver generation e] := by
            simp [Client.report, Client.takeEvent, hLive,
              hPhase]
          exact
            hUnderway.reported hOpening (fun _ => rfl) hLive
              rfl rfl (Or.inr ⟨rfl, rfl⟩)

/-
  An attempt that is under way tells what its course does, and
  the end of it is answered once.
-/
theorem Underway.pursue
    (hUnderway : t.Underway attempt generation opened)
    (course : Course) :
    t.Concluded (course.told opened)
      (t.pursue attempt generation course) := by
  induction course generalizing t opened with
  | nil =>
      refine
        ⟨hUnderway.alive, hUnderway.handlers, rfl, ?_, ?_, ?_⟩
      · exact (List.append_nil _).symm
      · intro hEnds
        contradiction
      · exact fun _ => hUnderway.isActive
  | cons m rest ih =>
      cases m with
      | report r =>
          by_cases hEnd : r = .closed
          · rw [hEnd]
            rcases hUnderway.closed (hUnderway.serve .closed)
              with ⟨hConcluded, hBegun, hRetired⟩
            rcases pursue_of_retired hBegun hRetired rest with
              ⟨hCalls, hClient, hAlive⟩
            unfold Turn.pursue
            constructor
            · rw [hAlive]
              exact hConcluded.alive
            · rw [hClient]
              exact hConcluded.handlers
            · rw [hClient]
              exact hConcluded.config
            · rw [hCalls]
              exact hConcluded.callbacks
            · rw [hClient]
              exact hConcluded.ended
            · rw [hClient]
              exact hConcluded.unended
          · rcases hUnderway.report r hEnd with
              ⟨opened', calls, hTold, hNext, hAfter⟩
            rw [hTold]
            unfold Turn.pursue
            apply hAfter _ _ _ (ih hNext)
            intro hOpened
            rw [hOpened]
            exact Course.opens_told_true rest
      | remark r =>
          have hNext :
              Underway { t with seen := .remark r :: t.seen }
                attempt generation opened :=
            ⟨hUnderway.alive, hUnderway.handlers,
              hUnderway.begun, hUnderway.live, hUnderway.phase,
              hUnderway.fresh⟩
          have hRest := ih hNext
          refine
            ⟨hRest.alive, hRest.handlers, hRest.config, ?_,
              hRest.ended, hRest.unended⟩
          exact
            hRest.callbacks.trans
              (congrArg (· ++ _) (callbacks_remark t r))
      | check r =>
          unfold Turn.pursue
          rw [hUnderway.isLive]
          exact ih hUnderway
      | wait span =>
          have hNext :
              Underway { t with now := t.now + span } attempt
                generation opened :=
            ⟨hUnderway.alive, hUnderway.handlers,
              hUnderway.begun, hUnderway.live, hUnderway.phase,
              hUnderway.fresh⟩
          have hRest := ih hNext
          exact
            ⟨hRest.alive, hRest.handlers, hRest.config,
              hRest.callbacks, hRest.ended, hRest.unended⟩
      | hold =>
          refine
            ⟨hUnderway.alive, hUnderway.handlers, rfl, ?_, ?_, ?_⟩
          · exact (List.append_nil _).symm
          · intro hEnds
            contradiction
          · exact fun _ => hUnderway.isActive

end Turn

end EventFeed

------------------------------------------------------------
-- Attempts of a Session
------------------------------------------------------------

namespace EventFeed

namespace Turn

variable {keep : Remark → Bool}
variable {t t' : Turn}
variable {attempt : Nat}
variable {generation : UInt64}

theorem Alike.held (hAlike : t.Alike keep t') :
    t.held = t'.held := by
  have hHeld := congrArg Turn.held hAlike
  rw [held_gist, held_gist] at hHeld
  exact hHeld

theorem Alike.isLive
    (hAlike : t.Alike keep t')
    (generation : UInt64) :
    t.isLive generation = t'.isLive generation := by
  unfold Turn.isLive
  rw [hAlike.alive, hAlike.client]

/- Turns stay alike when the same is seen of both. -/
theorem Alike.seeing
    (hAlike : t.Alike keep t')
    (new : List Observation) :
    Alike keep { t with seen := new ++ t.seen }
      { t' with seen := new ++ t'.seen } := by
  simp_all [Alike, gist, List.filterMap_append]

/- And when time passes for both. -/
theorem Alike.later
    (hAlike : t.Alike keep t')
    (span : Span) :
    Alike keep { t with now := t.now + span }
      { t' with now := t'.now + span } := by
  simp_all [Alike, gist]

theorem Alike.pursue
    (hAlike : t.Alike keep t')
    (attempt : Nat)
    (generation : UInt64)
    (course : Course) :
    (t.pursue attempt generation course).Alike keep
      (t'.pursue attempt generation course) := by
  induction course generalizing t t' with
  | nil => exact hAlike
  | cons m rest ih =>
      cases m with
      | report r => exact ih (hAlike.serve _)
      | remark r => exact ih (hAlike.seeing [.remark r])
      | check r =>
          unfold Turn.pursue
          rw [hAlike.isLive generation]
          split
          · exact ih hAlike
          · exact hAlike.seeing _
      | wait span => exact ih (hAlike.later span)
      | hold => exact hAlike

/- A handle that is still held was held before. -/
theorem held_of_finish (hHeld : t.finish.held = true) :
    t.held = true := by
  have hBefore : t.finish.held = true → t.held = true :=
    finish_induction
      (P := fun t' => t'.held = true → t.held = true)
      (fun t' hAll hStep => hAll (t'.momentary_step.held hStep))
      id
  exact hBefore hHeld

theorem held_of_pursue
    {course : Course}
    (hHeld :
      (t.pursue attempt generation course).held = true) :
    t.held = true := by
  induction course generalizing t with
  | nil => exact hHeld
  | cons m rest ih =>
      cases m with
      | report r =>
          have hServed :
              (t.serve (.act (.report attempt r))).held = true :=
            ih hHeld
          have hFinished :
              (t.facing (.act (.report attempt r))).finish.held =
                true := hServed
          have hFacing := held_of_finish hFinished
          exact hFacing
      | remark r =>
          have hRest :
              held { t with seen := .remark r :: t.seen } = true :=
            ih hHeld
          exact hRest
      | check r =>
          unfold pursue at hHeld
          split at hHeld
          · exact ih hHeld
          · exact hHeld
      | wait span =>
          have hRest :
              held { t with now := t.now + span } = true :=
            ih hHeld
          exact hRest
      | hold => exact hHeld

end Turn

namespace Session

/- The client of a session, with nothing left to do. -/
def asTurn (s : Session) : Turn where
  now := s.now
  begun := s.begun
  alive := s.alive
  held := s.held
  client := s.client
  agenda := []
  answers := []
  seen := s.seen

/- No time passes in a turn, and no attempt begins. -/
theorem kept_of_turn (s : Session) (signal : Task) :
    (s.asTurn.facing signal).finish.now = s.now ∧
      (s.asTurn.facing signal).finish.begun = s.begun := by
  refine
    Turn.finish_induction
      (P := fun t => t.now = s.now ∧ t.begun = s.begun)
      ?_ ⟨rfl, rfl⟩
  intro t hBefore
  exact
    ⟨t.momentary_step.now.trans hBefore.1,
      t.begun_step.trans hBefore.2⟩

/-
  While the handle is held, a turn of a session is a signal
  that is served.
-/
theorem alike_turn
    (s : Session)
    {signal : Task}
    (hHeld : (s.asTurn.serve signal).held = true) :
    Turn.Alike (fun _ => true) (s.asTurn.serve signal)
      (s.turn signal).1.asTurn := by
  have hKept := s.kept_of_turn signal
  have hAlive :
      (s.asTurn.facing signal).finish.alive =
        ((s.asTurn.facing signal).finish.alive &&
          (s.asTurn.facing signal).finish.held) := by
    have hStill :
        (s.asTurn.facing signal).finish.held = true := hHeld
    rw [hStill, Bool.and_true]
  have hTurn :
      (s.turn signal).1.asTurn =
        { (s.asTurn.facing signal).finish with
          now := s.now
          begun := s.begun
          alive :=
            (s.asTurn.facing signal).finish.alive &&
              (s.asTurn.facing signal).finish.held
          agenda := []
          answers := [] } :=
    rfl
  rw [hTurn, ← hAlive, ← hKept.1, ← hKept.2]
  rfl

/-
  While the handle is held, an attempt of a session that does
  not pause is pursued.
-/
theorem alike_play
    (s : Session)
    (hAlive : s.alive = true)
    {attempt : Nat}
    {generation : UInt64}
    {course : Course}
    (hPauses : ∀ m ∈ course, m.isPause = false)
    (hHeld :
      (s.asTurn.pursue attempt generation course).held = true) :
    Turn.Alike (fun _ => true)
      (s.asTurn.pursue attempt generation course)
      (s.play attempt generation course).asTurn := by
  induction course generalizing s with
  | nil => exact .refl _
  | cons m rest ih =>
      rw [List.forall_mem_cons] at hPauses
      cases m with
      | report r =>
          have hServed :
              (s.asTurn.serve (.act (.report attempt r))).held =
                true :=
            Turn.held_of_pursue hHeld
          have hTurn := s.alike_turn hServed
          have hPursue :=
            hTurn.pursue attempt generation rest
          have hAliveNext :
              (s.turn (.act (.report attempt r))).1.alive =
                true := by
            have hKept :
                (s.asTurn.serve
                  (.act (.report attempt r))).alive =
                    s.alive := by
              apply
                Turn.finish_induction
                  (P := fun t => t.alive = s.alive)
                  (fun t hBefore =>
                    t.momentary_step.alive.trans hBefore)
              rfl
            exact hTurn.alive.trans (hKept.trans hAlive)
          unfold play
          refine hPursue.trans (ih _ hAliveNext hPauses.2 ?_)
          rw [← hPursue.held]
          exact hHeld
      | remark r =>
          exact ih (s.observe (.remark r)) hAlive hPauses.2 hHeld
      | check r =>
          have hLive :
              s.asTurn.isLive generation = s.isLive generation :=
            rfl
          unfold Turn.pursue at hHeld ⊢
          unfold play
          rw [hLive] at hHeld ⊢
          split at hHeld
          · next hTrue =>
              rw [if_pos hTrue, if_pos hTrue]
              exact ih s hAlive hPauses.2 hHeld
          · next hFalse =>
              rw [if_neg hFalse, if_neg hFalse]
              cases r <;> exact .refl _
      | wait span => simp [Move.isPause] at hPauses
      | hold => exact .refl _

end Session

end EventFeed
