import EventFeed.Proofs.Client.Guard
import EventFeed.Proofs.Client.Lateness

/-
  This file proves that the counters of a client account for
  its calls.

  Each operation counts what it owes a call for: an event, an
  error or a reconnect when it is taken, a ping once its call
  has returned.  The duty to count a ping waits behind that
  call, and no panic takes it away.  So along a run the
  counters agree with the story, up to the pings that are
  still to be counted; and when nothing is owed the story is
  what was heard.

  Key definitions include:
    * `Turn.heard`
    * `Turn.equipped`
    * `Turn.recorded`
    * `Client.Booked`
    * `Turn.Balanced`
    * `Turn.Accounted`

  Key results include:
    * `Effect.booked`
    * `Turn.Balanced.move`
    * `Turn.accounted_follow`
-/

------------------------------------------------------------
-- Calls and Recorders
------------------------------------------------------------

namespace EventFeed

/- Whether the sign is a call for the slot. -/
def Sign.isCallOf (slot : Slot) : Sign → Bool
  | .call c => c.slot == slot
  | .connect => false

/- How many calls for the slot there are among the signs. -/
def Sign.calls (slot : Slot) (signs : List Sign) : Nat :=
  signs.countP (isCallOf slot)

/- Whether the handler of the slot was called. -/
def Observation.isHeardBy (slot : Slot) : Observation → Bool
  | .call c heard => heard && c.slot == slot
  | _ => false

/- The slots whose calls are counted. -/
def Slot.counted : List Slot :=
  [ping, message, error, reconnected]

/- Whether the duty is to count a ping. -/
def Duty.countsPing : Duty → Bool
  | .countPing => true
  | _ => false

/- Whether the entry counts a ping. -/
def Task.countsPing : Task → Bool
  | .owe d => d.countsPing
  | _ => false

/- Whether every slot has a handler. -/
def Registry.isFull {α : Type} (r : Registry α) : Bool :=
  Slot.all.all r.isRegistered

theorem Registry.get_of_isFull
    {α : Type}
    {r : Registry α}
    (hFull : r.isFull = true)
    (slot : Slot) :
    r.get slot ≠ none := by
  have hSlot : r.isRegistered slot = true := by
    apply List.all_eq_true.mp hFull
    cases slot <;> decide
  intro hNone
  rw [isRegistered, hNone] at hSlot
  contradiction

namespace Turn

/- How often the handler of a slot was called so far. -/
def heard (t : Turn) (slot : Slot) : Nat :=
  t.seen.countP (Observation.isHeardBy slot)

/- How many calls for a slot the story tells of. -/
def calls (t : Turn) (slot : Slot) : Nat :=
  Sign.calls slot t.story

/- How many pings are still to be counted. -/
def uncounted (t : Turn) : Nat :=
  t.agenda.countP Task.countsPing

/-
  Whether no call is in progress: no handler is running, and
  no operation is half done.
-/
def isQuiet (t : Turn) : Bool :=
  t.isFree && t.agenda.all fun task => !task.isReturn

/- A new client with the given handlers. -/
def equipped
    (config : Config)
    (handlers : Registry Handler) : Turn :=
  { fresh config with
    client := (Client.new config).withHandlers handlers }

/- Whether every slot has a handler at each point of a run. -/
def recorded (t : Turn) : List Move → Bool
  | [] => t.client.handlers.isFull
  | m :: moves =>
      t.client.handlers.isFull && (t.move m).recorded moves

end Turn

end EventFeed

------------------------------------------------------------
-- Counters of an Operation
------------------------------------------------------------

namespace EventFeed

namespace Sign

@[simp]
theorem calls_nil (slot : Slot) : calls slot [] = 0 :=
  rfl

theorem calls_append
    (slot : Slot)
    (a b : List Sign) :
    calls slot (a ++ b) = calls slot a + calls slot b :=
  List.countP_append

/- An event is one call, for a ping or for a message. -/
theorem calls_callback
    (e : Event)
    (slot : Slot) :
    calls slot [.call e.callback] =
      if slot = (if e.isPing then .ping else .message) then 1
      else 0 := by
  unfold Event.callback calls
  cases e.isPing <;> cases slot <;> rfl

/- A call that is not counted is none for a counted slot. -/
theorem calls_eq_zero
    {c : Callback}
    (hOther : c.slot ∉ Slot.counted) :
    ∀ slot ∈ Slot.counted, calls slot [.call c] = 0 := by
  intro slot hCounted
  have hSlot : c.slot ≠ slot := by
    intro hEq
    rw [hEq] at hOther
    contradiction
  simp [calls, isCallOf, hSlot]

end Sign

/-
  The counters of a client go on by the calls that an
  operation owes, but for the pings among them; these are left
  to be counted.  And attempts are started by a connect or
  with the call for a reconnect.
-/
structure Client.Booked (c : Client) (o : Outcome) : Prop where
  events :
    o.client.tally.events =
      c.tally.events +
        UInt64.ofNat
          (Sign.calls .ping o.signs +
            Sign.calls .message o.signs)
  pings : o.client.tally.pings = c.tally.pings
  uncounted :
    o.owed.countP Duty.countsPing = Sign.calls .ping o.signs
  errors :
    o.client.tally.errors =
      c.tally.errors +
        UInt64.ofNat (Sign.calls .error o.signs)
  reconnects :
    o.client.tally.reconnects =
      c.tally.reconnects +
        UInt64.ofNat (Sign.calls .reconnected o.signs)
  starts :
    o.milestones.countP Remark.isStart =
      o.milestones.countP Remark.isConnect +
        Sign.calls .reconnected o.signs

namespace Client.Booked

variable {c : Client}
variable {o : Outcome}

/- An operation without a call that is counted. -/
theorem of_tally
    (hTally : o.client.tally = c.tally)
    (hOwed : o.owed.countP Duty.countsPing = 0)
    (hCalls :
      ∀ slot ∈ Slot.counted,
        Sign.calls slot o.signs = 0)
    (hStarts :
      o.milestones.countP Remark.isStart =
        o.milestones.countP Remark.isConnect) :
    c.Booked o := by
  have hPing := hCalls .ping (by decide)
  have hMessage := hCalls .message (by decide)
  have hError := hCalls .error (by decide)
  have hReconnected := hCalls .reconnected (by decide)
  constructor
  · rw [hTally, hPing, hMessage]
    exact (UInt64.add_zero _).symm
  · rw [hTally]
  · rw [hOwed, hPing]
  · rw [hTally, hError]
    exact (UInt64.add_zero _).symm
  · rw [hTally, hReconnected]
    exact (UInt64.add_zero _).symm
  · rw [hStarts, hReconnected, Nat.add_zero]

/- An event that was accepted, whatever became of the link. -/
theorem accept
    {l : Link}
    (e : Event) :
    c.Booked (Client.accept { c with link := l } e) := by
  constructor
  · rw [Outcome.signs_accept, Sign.calls_callback,
      Sign.calls_callback]
    cases e.isPing <;> rfl
  · rfl
  · rw [Outcome.signs_accept, Sign.calls_callback]
    unfold Client.accept
    cases e.isPing <;> rfl
  · rw [Outcome.signs_accept, Sign.calls_callback]
    cases e.isPing <;> exact (UInt64.add_zero _).symm
  · rw [Outcome.signs_accept, Sign.calls_callback]
    cases e.isPing <;> exact (UInt64.add_zero _).symm
  · rw [Outcome.signs_accept, Outcome.milestones_accept,
      Sign.calls_callback]
    cases e.isPing <;> rfl

end Client.Booked

/- Every operation is booked, but the counting of a ping. -/
theorem Effect.booked
    {now : Time}
    {begun : Array UInt64}
    {c : Client}
    {task : Task}
    {o : Outcome}
    (hEffect : Effect now begun c task o)
    (hTask : task.countsPing = false) :
    c.Booked o := by
  cases hEffect with
  | nothing _ remarks hStale =>
      have hSilent := Remark.silent_of_isStale hStale
      have hSigns : Outcome.signs ⟨c, remarks, []⟩ = [] := by
        rw [Outcome.signs, hSilent.2]
        rfl
      refine .of_tally rfl rfl ?_ ?_
      · intro slot _
        rw [hSigns]
        rfl
      · rw [Outcome.milestones, hSilent.1]
        rfl
  | connect hPhase =>
      refine .of_tally ?_ ?_ ?_ ?_
      · rw [Client.connect_of_accepted now hPhase]
      · rw [Client.connect_of_accepted now hPhase]
        rfl
      · intro slot _
        rw [Outcome.signs_connect now hPhase]
        rfl
      · rw [Outcome.milestones_connect now hPhase]
        rfl
  | disconnect =>
      refine .of_tally rfl rfl ?_ ?_
      · rw [Outcome.signs_disconnect]
        exact Sign.calls_eq_zero (by decide)
      · rw [Outcome.milestones_disconnect]
        rfl
  | opening attempt generation r next hBegun hLive hPhase hNext =>
      refine .of_tally rfl ?_ ?_ ?_
      · rcases hNext with rfl | ⟨_, rfl⟩ <;> rfl
      · rw [Outcome.signs_opening]
        rcases hNext with rfl | ⟨_, rfl⟩ <;>
          exact Sign.calls_eq_zero (by decide)
      · rw [Outcome.milestones_opening]
        rfl
  | event attempt generation e => exact .accept e
  | delivery generation e => exact .accept e
  | error =>
      refine ⟨?_, rfl, rfl, rfl, ?_, rfl⟩
      · exact (UInt64.add_zero _).symm
      · exact (UInt64.add_zero _).symm
  | detach =>
      refine .of_tally rfl rfl ?_ ?_
      · exact fun _ _ => rfl
      · rfl
  | giveUp _ before why hBefore hManual hPhase hWhy =>
      refine .of_tally rfl rfl ?_ ?_
      · rw [Outcome.signs_giveUp hBefore hWhy]
        exact Sign.calls_eq_zero (by decide)
      · rw [Outcome.milestones_giveUp hBefore hWhy]
        cases hWhy <;> rfl
  | retry _ before hBefore =>
      refine .of_tally rfl rfl ?_ ?_
      · rw [Outcome.signs_retry now hBefore]
        exact Sign.calls_eq_zero (by simp [Callback.slot, Slot.counted])
      · rw [Outcome.milestones_retry now hBefore]
        rfl
  | restart =>
      constructor <;>
        simp only [Outcome.signs_restart,
          Outcome.milestones_restart]
      · exact (UInt64.add_zero _).symm
      · rfl
      · rfl
      · exact (UInt64.add_zero _).symm
      · rfl
      · rfl
  | countPing => contradiction

end EventFeed

------------------------------------------------------------
-- Pings That Wait
------------------------------------------------------------

namespace EventFeed

namespace Task

variable {front agenda : List Task}

theorem isDuty_of_countsPing
    {task : Task}
    (hCounts : task.countsPing = true) :
    task.isDuty = true := by
  cases task <;> first | rfl | contradiction

theorem eq_countPing
    {task : Task}
    (hCounts : task.countsPing = true) :
    task = .owe .countPing := by
  cases task with
  | owe d => cases d <;> first | rfl | contradiction
  | _ => contradiction

theorem countP_countsPing_eq_zero
    (hNone : ∀ task ∈ front, task.isDuty = false) :
    front.countP countsPing = 0 := by
  apply List.countP_eq_zero.mpr
  intro task hMember hCounts
  have hDuty := isDuty_of_countsPing hCounts
  rw [hNone task hMember] at hDuty
  contradiction

/- Only duties count. -/
theorem countP_countsPing_duties (agenda : List Task) :
    (duties agenda).countP countsPing =
      agenda.countP countsPing := by
  unfold duties
  rw [List.countP_filter]
  apply List.countP_congr
  intro task _
  rw [Bool.and_eq_true]
  exact ⟨And.left, fun hCounts =>
    ⟨hCounts, isDuty_of_countsPing hCounts⟩⟩

theorem countP_countsPing_owed (owed : List Duty) :
    (owed.map owe).countP countsPing =
      owed.countP Duty.countsPing := by
  rw [List.countP_map]
  rfl

end Task

namespace Turn

variable {t t' : Turn}

/-
  What a step does to the pings that wait: nothing, when
  nothing was operated; an operation may add some; and one of
  them may be counted.
-/
inductive Metered (t t' : Turn) : Prop
  | still
      (hStill : t.Still t')
      (hUncounted : t'.uncounted = t.uncounted)
  | acted
      (task : Task)
      (o : Outcome)
      (hActed : t.Acted task o t')
      (hBooked : t.client.Booked o)
      (hUncounted :
        t'.uncounted =
          o.owed.countP Duty.countsPing + t.uncounted)
  | counted
      (hActed :
        t.Acted (.owe .countPing)
          ⟨t.client.count .pings, [], []⟩ t')
      (hUncounted : t.uncounted = t'.uncounted + 1)

/- A ping is counted when its turn comes. -/
theorem metered_of_countPing
    (hOrderly : t.Orderly)
    {rest : List Task}
    (hAgenda : t.agenda = .owe .countPing :: rest) :
    t.Metered t.step := by
  have hStep :
      t.step =
        { t with agenda := rest }.take
          ⟨t.client.count .pings, [], []⟩ := by
    simp [step, hAgenda, run, Client.perform]
  apply Metered.counted
  · rw [hStep]
    exact
      acted_of_take hOrderly hAgenda rfl .countPing rfl rfl rfl
        rfl
  · rw [hStep]
    unfold uncounted
    rw [hAgenda]
    exact List.countP_cons_of_pos rfl

/- An entry that is no duty keeps the pings that wait. -/
theorem uncounted_of_aside
    (hGuarded : t.Guarded)
    (hFree : t.isFree = true)
    {front back : List Task}
    (hAgenda : t.step.agenda = front ++ back)
    (hFront : ∀ task ∈ front, task.isDuty = false)
    (hBack : back <:+ t.agenda) :
    t.step.uncounted = t.uncounted := by
  unfold uncounted
  rw [← Task.countP_countsPing_duties,
    duties_step_of_aside hGuarded hFree hAgenda hFront hBack,
    Task.countP_countsPing_duties]

theorem metered_step
    (hOrderly : t.Orderly)
    (hGuarded : t.Guarded) :
    t.Metered t.step := by
  by_cases hFirst : ∃ rest, t.agenda = .owe .countPing :: rest
  · rcases hFirst with ⟨rest, hAgenda⟩
    exact metered_of_countPing hOrderly hAgenda
  · cases t.change_move .step with
    | pass hClient hBegun hAgenda hSeen =>
        apply Metered.still
          (still_of_pass hClient hBegun hAgenda hSeen)
        exact congrArg (List.countP Task.countsPing) hAgenda
    | begin generation kind url hHeld hClient hBegun hAgenda
        hSeen =>
        apply Metered.still
          (still_of_begin hHeld hClient hBegun hAgenda hSeen)
        exact congrArg (List.countP Task.countsPing) hAgenda
    | aside front back new hFree hUntouched hAgenda hFront hBack
        hSeen hNew =>
        apply Metered.still
          (still_of_aside hOrderly hFree hUntouched hAgenda
            hFront hBack hSeen hNew)
        exact
          uncounted_of_aside hGuarded hFree hAgenda hFront hBack
    | hand c heard front back hCall hUntouched hAgenda hFront
        hSeen =>
        apply Metered.still
          (still_of_hand hOrderly hCall hUntouched hAgenda
            hFront hSeen)
        show List.countP _ (t.move .step).agenda = List.countP _ _
        rw [hAgenda, hCall, List.countP_append,
          Task.countP_countsPing_eq_zero hFront, Nat.zero_add]
        exact
          (List.countP_cons_of_neg
            (by simp [Task.countsPing, Duty.countsPing])).symm
    | take task back o hTask hCall hEffect hClient hBegun hAgenda
        hSeen =>
        have hOther : task.countsPing = false := by
          rw [Bool.eq_false_iff]
          intro hCounts
          rw [Task.eq_countPing hCounts] at hTask
          exact hFirst ⟨back, hTask⟩
        apply Metered.acted task o
          (acted_of_take hOrderly hTask hCall hEffect hClient
            hBegun hAgenda hSeen)
          (hEffect.booked hOther)
        show List.countP _ (t.move .step).agenda = _
        unfold uncounted
        rw [hAgenda, hTask, List.countP_append,
          Task.countP_countsPing_owed,
          List.countP_cons_of_neg (by simp [hOther])]

/- Nothing but a step touches the pings that wait. -/
theorem metered_move
    (hOrderly : t.Orderly)
    (hGuarded : t.Guarded)
    (m : Move) :
    t.Metered (t.move m) := by
  have hPut :
      ∀ task : Task, task.isDuty = false →
        (t.put task).uncounted = t.uncounted := by
    intro task hDuty
    unfold put
    split
    · apply List.countP_cons_of_neg
      intro hCounts
      rw [Task.isDuty_of_countsPing hCounts] at hDuty
      contradiction
    · rfl
  by_cases hStep : m = .step
  · rw [hStep]
    exact metered_step hOrderly hGuarded
  · apply Metered.still (still_move hOrderly hStep)
    cases m with
    | step => contradiction
    | act a => exact hPut _ rfl
    | timer generation =>
        simp only [move]
        split
        · exact hPut _ rfl
        · rfl
    | alarm generation token =>
        simp only [move]
        split
        · exact hPut _ rfl
        · rfl
    | wait span => rfl
    | begin =>
        simp only [move, beginAttempt]
        split
        · split <;> rfl
        · rfl
    | drop =>
        simp only [move]
        split <;> rfl

end Turn

end EventFeed

------------------------------------------------------------
-- Counters Agree with the Story
------------------------------------------------------------

namespace EventFeed

namespace Turn

/-
  The counters agree with the story of the run, but for the
  pings that wait to be counted.
-/
structure Balanced (t : Turn) : Prop where
  events :
    t.client.tally.events =
      UInt64.ofNat (t.calls .ping + t.calls .message)
  pings :
    t.client.tally.pings + UInt64.ofNat t.uncounted =
      UInt64.ofNat (t.calls .ping)
  errors :
    t.client.tally.errors = UInt64.ofNat (t.calls .error)
  reconnects :
    t.client.tally.reconnects =
      UInt64.ofNat (t.calls .reconnected)
  starts : t.starts = t.connects + t.calls .reconnected

variable {t t' : Turn}

theorem Still.calls
    (hStill : t.Still t')
    (slot : Slot) :
    t'.calls slot = t.calls slot := by
  unfold Turn.calls
  rw [hStill.story]

theorem Acted.calls
    {task : Task}
    {o : Outcome}
    (hActed : t.Acted task o t')
    (slot : Slot) :
    t'.calls slot = t.calls slot + Sign.calls slot o.signs := by
  unfold Turn.calls
  rw [hActed.story, Sign.calls_append]

theorem Balanced.still
    (hBalanced : t.Balanced)
    (hStill : t.Still t')
    (hUncounted : t'.uncounted = t.uncounted) :
    t'.Balanced := by
  constructor
  · rw [hStill.tally, hStill.calls, hStill.calls]
    exact hBalanced.events
  · rw [hStill.tally, hStill.calls, hUncounted]
    exact hBalanced.pings
  · rw [hStill.tally, hStill.calls]
    exact hBalanced.errors
  · rw [hStill.tally, hStill.calls]
    exact hBalanced.reconnects
  · unfold Turn.starts Turn.connects
    rw [hStill.calls, hStill.milestones]
    exact hBalanced.starts

theorem Balanced.acted
    (hBalanced : t.Balanced)
    {task : Task}
    {o : Outcome}
    (hActed : t.Acted task o t')
    (hBooked : t.client.Booked o)
    (hUncounted :
      t'.uncounted =
        o.owed.countP Duty.countsPing + t.uncounted) :
    t'.Balanced := by
  constructor
  · have hSum :
        t'.calls .ping + t'.calls .message =
          (t.calls .ping + t.calls .message) +
            (Sign.calls .ping o.signs +
              Sign.calls .message o.signs) := by
      rw [hActed.calls, hActed.calls]
      omega
    rw [hActed.client, hBooked.events, hBalanced.events, hSum]
    exact (UInt64.ofNat_add _ _).symm
  · rw [hActed.client, hBooked.pings, hUncounted,
      hBooked.uncounted, hActed.calls, Nat.add_comm,
      UInt64.ofNat_add, ← UInt64.add_assoc, hBalanced.pings,
      UInt64.ofNat_add]
  · rw [hActed.client, hBooked.errors, hBalanced.errors,
      hActed.calls, UInt64.ofNat_add]
  · rw [hActed.client, hBooked.reconnects,
      hBalanced.reconnects, hActed.calls, UInt64.ofNat_add]
  · have hBefore := hBalanced.starts
    have hStarts := hBooked.starts
    unfold Turn.starts Turn.connects at *
    rw [hActed.countP_milestones, hActed.countP_milestones,
      hActed.calls]
    omega

theorem Balanced.counted
    (hBalanced : t.Balanced)
    (hActed :
      t.Acted (.owe .countPing)
        ⟨t.client.count .pings, [], []⟩ t')
    (hUncounted : t.uncounted = t'.uncounted + 1) :
    t'.Balanced := by
  have hCalls : ∀ slot, t'.calls slot = t.calls slot :=
    fun slot => hActed.calls slot
  constructor
  · rw [hActed.client, hCalls, hCalls]
    exact hBalanced.events
  · rw [hActed.client, hCalls, ← hBalanced.pings, hUncounted,
      Nat.add_comm, UInt64.ofNat_add, ← UInt64.add_assoc]
    rfl
  · rw [hActed.client, hCalls]
    exact hBalanced.errors
  · rw [hActed.client, hCalls]
    exact hBalanced.reconnects
  · have hBefore := hBalanced.starts
    unfold Turn.starts Turn.connects at *
    rw [hActed.countP_milestones, hActed.countP_milestones,
      hCalls]
    simpa [Outcome.milestones] using hBefore

theorem Balanced.move
    (hOrderly : t.Orderly)
    (hGuarded : t.Guarded)
    (hBalanced : t.Balanced)
    (m : Move) :
    (t.move m).Balanced := by
  cases metered_move hOrderly hGuarded m with
  | still hStill hUncounted =>
      exact hBalanced.still hStill hUncounted
  | acted task o hActed hBooked hUncounted =>
      exact hBalanced.acted hActed hBooked hUncounted
  | counted hActed hUncounted =>
      exact hBalanced.counted hActed hUncounted

end Turn

end EventFeed

------------------------------------------------------------
-- Calls That Are Heard
------------------------------------------------------------

namespace EventFeed

namespace Turn

/- Every call so far was heard. -/
def Attended (t : Turn) : Prop :=
  ∀ c heard, .call c heard ∈ t.seen → heard = true

variable {t t' : Turn}

/- Observations that are no calls were heard by nobody. -/
theorem Attended.of_append
    (hAttended : t.Attended)
    {new : List Observation}
    (hSeen : t'.seen = new ++ t.seen)
    (hNew : ∀ c heard, .call c heard ∉ new) :
    t'.Attended := by
  intro c heard hMember
  rw [hSeen, List.mem_append] at hMember
  rcases hMember with hFirst | hOld
  · exact absurd hFirst (hNew c heard)
  · exact hAttended c heard hOld

theorem Attended.of_began
    (hAttended : t.Attended)
    {kind : Transport.Kind}
    {url : Url}
    (hSeen : t'.seen = .began kind url :: t.seen) :
    t'.Attended := by
  intro c heard hMember
  rw [hSeen] at hMember
  rcases List.mem_cons.mp hMember with hFirst | hOld
  · contradiction
  · exact hAttended c heard hOld

theorem Attended.handCall
    (hAttended : t.Attended)
    (hFull : t.client.handlers.isFull = true)
    (c : Callback) :
    (t.handCall c).Attended := by
  have hSlot := Registry.get_of_isFull hFull c.slot
  unfold Turn.handCall
  split
  · contradiction
  · intro c' heard hMember
    rcases List.mem_cons.mp hMember with hFirst | hOld
    · cases hFirst
      rfl
    · exact hAttended c' heard hOld

theorem Attended.step
    (hAttended : t.Attended)
    (hFull : t.client.handlers.isFull = true) :
    t.step.Attended := by
  cases t.change_move .step with
  | pass hClient hBegun hAgenda hSeen =>
      unfold Attended
      rw [← move, hSeen]
      exact hAttended
  | begin generation kind url hHeld hClient hBegun hAgenda
      hSeen =>
      exact hAttended.of_began hSeen
  | aside front back new hFree hUntouched hAgenda hFront hBack
      hSeen hNew =>
      apply hAttended.of_append hSeen
      intro c heard hMember
      have hAside := hNew _ hMember
      contradiction
  | hand c heard front back hCall hUntouched hAgenda hFront
      hSeen =>
      have hRest : Attended { t with agenda := back } :=
        hAttended
      have hStep :
          t.step = { t with agenda := back }.handCall c := by
        simp [Turn.step, hCall, run]
      rw [hStep]
      exact hRest.handCall hFull c
  | take task back o hTask hCall hEffect hClient hBegun hAgenda
      hSeen =>
      exact hAttended.of_append hSeen (by simp)

theorem Attended.move
    (hAttended : t.Attended)
    (hFull : t.client.handlers.isFull = true)
    (m : Move) :
    (t.move m).Attended := by
  have hPut : ∀ task, (t.put task).Attended := by
    intro task
    unfold put
    split <;> exact hAttended
  cases m with
  | step => exact hAttended.step hFull
  | act a => exact hPut _
  | timer generation =>
      simp only [Turn.move]
      split
      · exact hPut _
      · exact hAttended
  | alarm generation token =>
      simp only [Turn.move]
      split
      · exact hPut _
      · exact hAttended
  | wait span => exact hAttended
  | begin =>
      simp only [Turn.move, beginAttempt]
      split
      · split
        · exact hAttended.of_began rfl
        · exact hAttended
      · exact hAttended
  | drop =>
      simp only [Turn.move]
      split <;> exact hAttended

/- When all are heard, the calls made are the calls heard. -/
theorem Attended.heard_eq
    (hAttended : t.Attended)
    (slot : Slot) :
    t.heard slot = Sign.calls slot t.signs := by
  unfold heard signs Sign.calls
  rw [List.countP_filterMap, List.countP_reverse]
  apply List.countP_congr
  intro o hMember
  cases o with
  | remark r => cases r <;> simp [Observation.isHeardBy,
      Observation.sign?, Remark.sign?, Sign.isCallOf]
  | call c heard =>
      rw [hAttended c heard hMember]
      simp [Observation.isHeardBy, Observation.sign?,
        Sign.isCallOf]
  | did a answer => simp [Observation.isHeardBy,
      Observation.sign?]
  | began kind url => simp [Observation.isHeardBy,
      Observation.sign?]

------------------------------------------------------------
-- Quiet Points of a Run
------------------------------------------------------------

/- When no call is in progress, nothing is owed. -/
theorem duties_of_isQuiet
    (hGuarded : t.Guarded)
    (hQuiet : t.isQuiet = true) :
    Task.duties t.agenda = [] := by
  rw [isQuiet, Bool.and_eq_true] at hQuiet
  rcases hQuiet with ⟨hFree, hReturns⟩
  have hFirst := isDuty_head_of_isFree hFree
  have hNone :
      (t.agenda.dropWhile fun task => !task.isReturn) = [] := by
    rw [← List.append_nil t.agenda]
    exact
      List.dropWhile_append_of_pos
        (List.all_eq_true.mp hReturns)
  rw [← Task.duties_dropWhile hGuarded hFirst, hNone]
  rfl

/- Then the story is what was called. -/
theorem story_of_isQuiet
    (hGuarded : t.Guarded)
    (hQuiet : t.isQuiet = true) :
    t.story = t.signs := by
  have hNone := duties_of_isQuiet hGuarded hQuiet
  rw [Task.duties, List.filter_eq_nil_iff] at hNone
  have hCalls : ∀ task ∈ t.agenda, task.isCall = false := by
    intro task hMember
    apply isCall_of_isDuty
    rw [Bool.eq_false_iff]
    exact hNone task hMember
  rw [story, owedSigns, filterMap_sign? hCalls,
    List.append_nil]

/- And no ping waits to be counted. -/
theorem uncounted_of_isQuiet
    (hGuarded : t.Guarded)
    (hQuiet : t.isQuiet = true) :
    t.uncounted = 0 := by
  rw [uncounted, ← Task.countP_countsPing_duties,
    duties_of_isQuiet hGuarded hQuiet]
  rfl

/-
  The counters are the numbers of calls that were heard.  The
  attempts that were started are those of accepted connects
  and those that a call announced as reconnects.
-/
structure Accounted (t : Turn) : Prop where
  pings :
    t.client.tally.pings = UInt64.ofNat (t.heard .ping)
  events :
    t.client.tally.events =
      UInt64.ofNat (t.heard .ping + t.heard .message)
  errors :
    t.client.tally.errors = UInt64.ofNat (t.heard .error)
  reconnects :
    t.client.tally.reconnects =
      UInt64.ofNat (t.heard .reconnected)
  starts : t.starts = t.connects + t.heard .reconnected

theorem Balanced.accounted
    (hBalanced : t.Balanced)
    (hGuarded : t.Guarded)
    (hAttended : t.Attended)
    (hQuiet : t.isQuiet = true) :
    t.Accounted := by
  have hHeard : ∀ slot, t.heard slot = t.calls slot := by
    intro slot
    rw [calls, story_of_isQuiet hGuarded hQuiet]
    exact hAttended.heard_eq slot
  constructor
  · rw [hHeard, ← hBalanced.pings,
      uncounted_of_isQuiet hGuarded hQuiet]
    exact (UInt64.add_zero _).symm
  · rw [hHeard, hHeard]
    exact hBalanced.events
  · rw [hHeard]
    exact hBalanced.errors
  · rw [hHeard]
    exact hBalanced.reconnects
  · rw [hHeard]
    exact hBalanced.starts

end Turn

end EventFeed

------------------------------------------------------------
-- Runs Are Accounted For
------------------------------------------------------------

namespace EventFeed

/- An operation counts at most one thing, and once. -/
theorem Effect.tally_cases
    {now : Time}
    {begun : Array UInt64}
    {c : Client}
    {task : Task}
    {o : Outcome}
    (hEffect : Effect now begun c task o) :
    o.client.tally = c.tally ∨
      ∃ k, o.client.tally = c.tally.count k := by
  cases hEffect with
  | connect hPhase =>
      rw [Client.connect_of_accepted now hPhase]
      exact Or.inl rfl
  | event => exact Or.inr ⟨.events, rfl⟩
  | delivery => exact Or.inr ⟨.events, rfl⟩
  | error => exact Or.inr ⟨.errors, rfl⟩
  | restart => exact Or.inr ⟨.reconnects, rfl⟩
  | countPing => exact Or.inr ⟨.pings, rfl⟩
  | _ => exact Or.inl rfl

/- An alarm counts nowhere, be it current or late. -/
theorem Client.tally_fireAlarm
    (c : Client)
    (now : Time)
    (generation token : UInt64) :
    (c.fireAlarm now generation token).client.tally =
      c.tally := by
  unfold Client.fireAlarm
  split <;> rfl

namespace Turn

variable {t : Turn}

theorem tally_move_cases
    (hOrderly : t.Orderly)
    (m : Move) :
    (t.move m).client.tally = t.client.tally ∨
      ∃ k, (t.move m).client.tally = t.client.tally.count k := by
  rcases still_or_acted hOrderly (t.change_move m) with
    hStill | ⟨task, o, hActed⟩
  · exact Or.inl hStill.tally
  · rw [hActed.client]
    exact hActed.effect.tally_cases

/- What comes too late and what an alarm does count nowhere. -/
theorem tally_run
    {task : Task}
    (hTask :
      t.IsLate task ∨
        ∃ generation token, task = .fireAlarm generation token) :
    (t.run task).client.tally = t.client.tally := by
  rcases hTask with hLate | ⟨generation, token, rfl⟩
  · have hAlike : t.Alike (fun _ => false) (t.run task) :=
      hLate.alike (by simp)
    exact (congrArg (fun t => t.client.tally) hAlike).symm
  · exact t.client.tally_fireAlarm t.now generation token

/- A new client has counted nothing, and nothing happened. -/
theorem balanced_equipped
    (config : Config)
    (handlers : Registry Handler) :
    (equipped config handlers).Balanced :=
  ⟨rfl, rfl, rfl, rfl, rfl⟩

/- What a run keeps while every slot has a handler. -/
theorem attended_follow
    (hAttended : t.Attended)
    (moves : List Move)
    (hRecorded : t.recorded moves = true) :
    (t.follow moves).Attended := by
  induction moves generalizing t with
  | nil => exact hAttended
  | cons m moves ih =>
      rw [recorded, Bool.and_eq_true] at hRecorded
      rw [follow_cons]
      exact ih (hAttended.move hRecorded.1 m) hRecorded.2

/- The counters agree with the story along every run. -/
theorem balanced_follow
    (config : Config)
    (handlers : Registry Handler)
    (moves : List Move) :
    ((equipped config handlers).follow moves).Orderly ∧
      ((equipped config handlers).follow moves).Guarded ∧
        ((equipped config handlers).follow moves).Balanced := by
  refine
    follow_induction
      (P := fun t => t.Orderly ∧ t.Guarded ∧ t.Balanced) ?_ ?_
      moves
  · rintro t m ⟨hOrderly, hGuarded, hBalanced⟩
    exact
      ⟨orderly_move hOrderly m, guarded_move hGuarded m,
        hBalanced.move hOrderly hGuarded m⟩
  · exact
      ⟨orderly_fresh config, .nil,
        balanced_equipped config handlers⟩

/-
  Along every run that leaves no slot without a handler, and
  whenever no call is in progress, the counters are the
  numbers of calls that were heard.  A move counts at most one
  thing and resets nothing; an alarm, and whatever comes too
  late, counts nowhere.
-/
theorem accounted_follow
    (config : Config)
    (handlers : Registry Handler)
    (moves : List Move)
    {t : Turn}
    (hReached : t = (equipped config handlers).follow moves)
    (hRecorded :
      (equipped config handlers).recorded moves = true) :
    (t.isQuiet = true → t.Accounted) ∧
      (∀ m,
        (t.move m).client.tally = t.client.tally ∨
          ∃ k,
            (t.move m).client.tally = t.client.tally.count k) ∧
        ∀ task,
          (t.IsLate task ∨
            ∃ generation token,
              task = .fireAlarm generation token) →
            (t.run task).client.tally = t.client.tally := by
  rcases balanced_follow config handlers moves with
    ⟨hOrderly, hGuarded, hBalanced⟩
  have hStart : (equipped config handlers).Attended := by
    intro c heard hMember
    contradiction
  have hAttended := attended_follow hStart moves hRecorded
  rw [← hReached] at hOrderly hGuarded hBalanced hAttended
  refine ⟨?_, tally_move_cases hOrderly, fun _ => tally_run⟩
  intro hQuiet
  exact hBalanced.accounted hGuarded hAttended hQuiet

/-
  The handler of pings disconnects and then panics.  The ping
  that opened the connection is counted all the same, the end
  of the retired attempt and its watch count nowhere.
-/
theorem accounted_follow_after_panic :
    ∃ t : Turn,
      t.isQuiet = true ∧
        t.heard .ping = 1 ∧
        t.heard .closed = 1 ∧
        t.client.tally = ⟨1, 1, 0, 0⟩ ∧
        t.Accounted := by
  have hAll :=
    accounted_follow default
      ((Registry.filled Handler.listener).register .ping
        [[.disconnect, .panic]])
      [.act .connect, .step, .begin,
        .act (.report 0 (.event ⟨"ping", "", none⟩)), .step,
        .step, .step, .step, .step, .step, .step, .step, .step,
        .step, .step, .step, .act (.report 0 .closed), .step,
        .alarm 1 1, .step]
      rfl (by decide)
  exact
    ⟨_, by decide, by decide, by decide, by decide,
      hAll.1 (by decide)⟩

end Turn

end EventFeed
