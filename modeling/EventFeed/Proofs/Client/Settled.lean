import EventFeed.Proofs.Client.Guard
import EventFeed.Proofs.Client.SingleFlight

/-
  This file says what an operation comes to when all handlers
  are calm.

  Calm handlers do not touch the connection, so whatever an
  operation left to be done is done on the connection that
  the operation left.  What will be shown of it can be told
  in advance: the calls that are owed, and the one of an
  event that goes on after the opening was told.

  Key definitions include:
    * `Duty.signs`
    * `Turn.prospect`
    * `Turn.Smooth`
    * `Turn.Steady`

  Key results include:
    * `Turn.Smooth.step`
    * `Turn.Smooth.finish`
    * `Turn.serve_report`
-/

------------------------------------------------------------
-- Prospects
------------------------------------------------------------

namespace EventFeed

/- The signs that a duty leads to, if nothing interferes. -/
def Duty.signs : Duty → List Sign
  | .call c => [.call c]
  | .deliver _ e => [.call e.callback]
  | .countPing => []

/- The signs that an entry leads to, if nothing interferes. -/
def Task.signs : Task → List Sign
  | .owe d => d.signs
  | _ => []

/-
  Whether an entry leaves the connection as it is.  An event
  that goes on does so if its attempt is still live.
-/
def Task.isSmooth (l : Link) : Task → Bool
  | .owe (.deliver generation _) => l.isLive generation
  | .owe _ => true
  | task => task.isCalm

namespace Turn

/- The signs so far, and those that are to come. -/
def prospect (t : Turn) : List Sign :=
  t.signs ++ t.agenda.flatMap Task.signs

/- The handlers are calm, and the agenda is smooth. -/
structure Smooth (t : Turn) : Prop where
  guarded : t.Guarded
  handlers : t.client.handlers.Calm
  agenda :
    ∀ task ∈ t.agenda, task.isSmooth t.client.link = true

/- The connection is the same, and so is the prospect. -/
structure Steady (t t' : Turn) : Prop where
  now : t'.now = t.now
  alive : t'.alive = t.alive
  begun : t'.begun = t.begun
  config : t'.client.config = t.client.config
  link : t'.client.link = t.client.link
  prospect : t'.prospect = t.prospect

variable {t t' t'' : Turn}

theorem Steady.refl (t : Turn) : t.Steady t :=
  ⟨rfl, rfl, rfl, rfl, rfl, rfl⟩

theorem Steady.trans
    (hFirst : t.Steady t')
    (hSecond : t'.Steady t'') :
    t.Steady t'' where
  now := hSecond.now.trans hFirst.now
  alive := hSecond.alive.trans hFirst.alive
  begun := hSecond.begun.trans hFirst.begun
  config := hSecond.config.trans hFirst.config
  link := hSecond.link.trans hFirst.link
  prospect := hSecond.prospect.trans hFirst.prospect

end Turn

end EventFeed

------------------------------------------------------------
-- Steps of Smooth Turns
------------------------------------------------------------

namespace EventFeed

namespace Task

variable {task : Task}
variable {l : Link}

theorem isSmooth_of_isCalm
    (hCalm : task.isCalm = true) :
    task.isSmooth l = true := by
  cases task with
  | owe d =>
      cases d with
      | call c => rfl
      | _ => contradiction
  | _ => exact hCalm

theorem isCalm_of_isSmooth
    (hSmooth : task.isSmooth l = true)
    (hDuty : task.isDuty = false) :
    task.isCalm = true := by
  cases task with
  | owe d => contradiction
  | _ => exact hSmooth

theorem signs_eq_nil
    (hDuty : task.isDuty = false) :
    task.signs = [] := by
  cases task with
  | owe d => contradiction
  | _ => rfl

/- Nothing but duties leads to signs. -/
theorem flatMap_signs_duties (agenda : List Task) :
    (duties agenda).flatMap signs = agenda.flatMap signs := by
  induction agenda with
  | nil => rfl
  | cons task rest ih =>
      cases hDuty : task.isDuty with
      | true => simp_all [duties]
      | false => simp_all [duties, signs_eq_nil hDuty]

end Task

/- A calm entry has no effect but stale remarks. -/
theorem Effect.unmoved_of_isCalm
    {now : Time}
    {begun : Array UInt64}
    {c : Client}
    {task : Task}
    {o : Outcome}
    (hEffect : Effect now begun c task o)
    (hCalm : task.isCalm = true) :
    c.Unmoved o := by
  cases hEffect with
  | nothing _ remarks hStale => exact ⟨remarks, hStale, rfl⟩
  | giveUp _ _ _ _ _ _ _ hFails =>
      rw [Client.isFailedBy_of_isCalm hCalm] at hFails
      contradiction
  | retry _ _ _ _ _ _ _ hFails =>
      rw [Client.isFailedBy_of_isCalm hCalm] at hFails
      contradiction
  | _ => contradiction

namespace Turn

variable {t t' : Turn}

/- What is newly seen is added to the signs. -/
theorem signs_of_append
    {new : List Observation}
    (hSeen : t'.seen = new ++ t.seen) :
    t'.signs =
      t.signs ++ new.reverse.filterMap Observation.sign? := by
  unfold signs
  rw [hSeen, List.reverse_append, List.filterMap_append]

/- An operation that leaves the client shows no sign. -/
theorem signs_take_of_unmoved
    {o : Outcome}
    (hUnmoved : t.client.Unmoved o)
    (hSeen :
      t'.seen =
        (o.remarks.map Observation.remark).reverse ++ t.seen) :
    t'.signs = t.signs := by
  rcases hUnmoved with ⟨remarks, hStale, rfl⟩
  rw [signs_of_append hSeen, signs_take,
    (Remark.silent_of_isStale hStale).2, List.append_nil]

/- The prospect is the same if the signs and duties are. -/
theorem prospect_of_duties
    (hSigns : t'.signs = t.signs)
    (hDuties : Task.duties t'.agenda = Task.duties t.agenda) :
    t'.prospect = t.prospect := by
  unfold prospect
  rw [hSigns, ← Task.flatMap_signs_duties, hDuties,
    Task.flatMap_signs_duties]

/- Seeing to an entry that is no duty keeps the prospect. -/
theorem Smooth.prospect_step_of_isFree
    (hSmooth : t.Smooth)
    (hFree : t.isFree = true) :
    t.step.prospect = t.prospect := by
  cases t.change_move .step with
  | pass hClient hBegun hAgenda hSeen =>
      apply prospect_of_duties
      · unfold signs
        rw [← move, hSeen]
      · exact congrArg Task.duties hAgenda
  | begin generation kind url hHeld hClient hBegun hAgenda
      hSeen =>
      apply prospect_of_duties
      · unfold signs
        rw [← move, hSeen, List.reverse_cons,
          List.filterMap_append]
        exact List.append_nil _
      · exact congrArg Task.duties hAgenda
  | aside front back new _ hUntouched hAgenda hFront hBack
      hSeen hNew =>
      apply prospect_of_duties
      · rw [← move, signs_of_append hSeen, (of_isAside hNew).2,
          List.append_nil]
      · exact
          duties_step_of_aside hSmooth.guarded hFree hAgenda
            hFront hBack
  | hand c heard front back hCall =>
      unfold isFree at hFree
      rw [hCall] at hFree
      contradiction
  | take task back o hTask hCall hEffect hClient hBegun hAgenda
      hSeen =>
      have hDuty : task.isDuty = false :=
        isDuty_head_of_isFree hFree task (by rw [hTask]; rfl)
      have hCalm : task.isCalm = true := by
        have hMember : task ∈ t.agenda := by
          rw [hTask]
          exact List.mem_cons_self
        exact
          Task.isCalm_of_isSmooth (hSmooth.agenda task hMember)
            hDuty
      have hUnmoved := hEffect.unmoved_of_isCalm hCalm
      apply prospect_of_duties
      · exact signs_take_of_unmoved hUnmoved hSeen
      · rcases hUnmoved with ⟨remarks, _, rfl⟩
        rw [← move, hAgenda, hTask]
        simp [Task.duties, hDuty]

/-
  A turn with the same agenda, handlers that are calm and new
  entries that are calm is smooth.
-/
theorem Smooth.of_eased
    (hSmooth : t.Smooth)
    (hGuarded : t'.Guarded)
    (hEased : t.Eased t') :
    t'.Smooth := by
  refine ⟨hGuarded, hEased.handlers, ?_⟩
  intro task hMember
  rw [hEased.untouched.link]
  rcases hEased.agenda task hMember with hNew | hOld
  · exact Task.isSmooth_of_isCalm hNew
  · exact hSmooth.agenda task hOld

/- Handing over a call shows it. -/
theorem prospect_handCall
    (t : Turn)
    (c : Callback) :
    (t.handCall c).prospect =
      t.signs ++ .call c :: t.agenda.flatMap Task.signs := by
  unfold handCall
  split
  · unfold prospect
    rw [signs_of_append (List.singleton_append).symm]
    simp [Observation.sign?]
  · next handler hHandler =>
      have hReaction :
          ((handler.headD []).flatMap fun a =>
            [Task.act a, .note a]).flatMap Task.signs = [] := by
        rw [List.flatMap_eq_nil_iff]
        intro task hMember
        rw [List.mem_flatMap] at hMember
        rcases hMember with ⟨a, _, hTask⟩
        simp only [List.mem_cons, List.not_mem_nil,
          or_false] at hTask
        rcases hTask with rfl | rfl <;> rfl
      unfold prospect
      rw [signs_of_append (List.singleton_append).symm,
        List.flatMap_append, hReaction]
      simp [Observation.sign?, Task.signs]

/- What an operation owes is what it adds to the prospect. -/
theorem prospect_take
    {o : Outcome}
    (hRemarks : o.remarks.filterMap Remark.sign? = []) :
    (t.take o).prospect =
      t.signs ++ (o.owed.flatMap Duty.signs ++
        t.agenda.flatMap Task.signs) := by
  unfold prospect
  rw [signs_of_append (t := t) rfl, signs_take, hRemarks,
    List.append_nil]
  simp [take, List.flatMap_append, List.flatMap_map, Task.signs]

/- What an operation owes may be done on what it left. -/
theorem Smooth.take
    (hSmooth : t.Smooth)
    {o : Outcome}
    (hHandlers : o.client.handlers = t.client.handlers)
    (hLive :
      ∀ generation e, .owe (.deliver generation e) ∈ t.agenda →
        o.client.link.isLive generation = true)
    (hOwed :
      ∀ d ∈ o.owed,
        (Task.owe d).isSmooth o.client.link = true) :
    (t.take o).Smooth := by
  refine
    ⟨Task.isChain_owed_append o.owed hSmooth.guarded, ?_, ?_⟩
  · show o.client.handlers.Calm
    rw [hHandlers]
    exact hSmooth.handlers
  · intro task hMember
    simp only [Turn.take, List.mem_append, List.mem_map]
      at hMember
    rcases hMember with ⟨d, hNew, rfl⟩ | hOld
    · exact hOwed d hNew
    · cases task with
      | owe d =>
          cases d with
          | deliver generation e => exact hLive generation e hOld
          | _ => rfl
      | _ => exact hSmooth.agenda _ hOld

/- An event that goes on is accepted. -/
theorem run_deliver
    {generation : UInt64}
    (hLive : t.client.link.isLive generation = true)
    (e : Event) :
    t.run (.owe (.deliver generation e)) =
      t.take (t.client.accept e) := by
  simp [run, Client.perform, hLive]

theorem Smooth.perform
    (hSmooth : t.Smooth)
    {d : Duty}
    (hDuty : (Task.owe d).isSmooth t.client.link = true) :
    (t.run (.owe d)).Smooth := by
  have hLive :
      ∀ generation e, .owe (.deliver generation e) ∈ t.agenda →
        t.client.link.isLive generation = true :=
    fun generation e hMember => hSmooth.agenda _ hMember
  cases d with
  | call c =>
      exact
        hSmooth.of_eased (guarded_handCall hSmooth.guarded c)
          (Eased.handCall hSmooth.handlers c)
  | deliver generation e =>
      rw [run_deliver hDuty]
      apply hSmooth.take rfl hLive
      intro d hMember
      unfold Client.accept at hMember
      rw [List.mem_cons] at hMember
      rcases hMember with rfl | hMember
      · rfl
      · split at hMember
        · rw [List.mem_singleton.mp hMember]
          rfl
        · contradiction
  | countPing =>
      apply hSmooth.take rfl hLive
      intro d hMember
      contradiction

/- Seeing to a duty shows what it was to lead to. -/
theorem steady_perform
    {d : Duty}
    {rest : List Task}
    (hAgenda : t.agenda = .owe d :: rest)
    (hDuty : (Task.owe d).isSmooth t.client.link = true) :
    t.Steady t.step := by
  have hMomentary := t.momentary_step
  have hStep :
      t.step = { t with agenda := rest }.run (.owe d) := by
    simp [step, hAgenda]
  have hProspect :
      t.prospect =
        t.signs ++ (d.signs ++ rest.flatMap Task.signs) := by
    unfold prospect
    rw [hAgenda, List.flatMap_cons]
    rfl
  cases d with
  | call c =>
      have hUntouched :
          t.Untouched ({ t with agenda := rest }.handCall c) := by
        unfold handCall
        split <;> exact ⟨rfl, rfl, rfl, rfl⟩
      refine ⟨hMomentary.now, hMomentary.alive, ?_, ?_, ?_, ?_⟩
      · rw [hStep]
        exact hUntouched.begun
      · rw [hStep]
        exact hUntouched.config
      · rw [hStep]
        exact hUntouched.link
      · rw [hStep, hProspect]
        exact prospect_handCall { t with agenda := rest } c
  | deliver generation e =>
      rw [run_deliver (t := { t with agenda := rest }) hDuty]
        at hStep
      refine ⟨hMomentary.now, hMomentary.alive, ?_, ?_, ?_, ?_⟩
      · rw [hStep]
        rfl
      · rw [hStep]
        rfl
      · rw [hStep]
        rfl
      · rw [hStep, hProspect, prospect_take]
        · unfold Client.accept
          cases e.isPing <;> rfl
        · exact (Client.silent_deliveryRemark e).2
  | countPing =>
      refine ⟨hMomentary.now, hMomentary.alive, ?_, ?_, ?_, ?_⟩
      · rw [hStep]
        rfl
      · rw [hStep]
        rfl
      · rw [hStep]
        rfl
      · rw [hStep, hProspect]
        exact prospect_take rfl

/- A step of a smooth turn leads on to the same prospect. -/
theorem Smooth.step
    (hSmooth : t.Smooth) :
    t.step.Smooth ∧ t.Steady t.step := by
  have hGuarded := guarded_move hSmooth.guarded .step
  have hMomentary := t.momentary_step
  cases hAgenda : t.agenda with
  | nil =>
      have hStep : t.step = t := by simp [Turn.step, hAgenda]
      rw [hStep]
      exact ⟨hSmooth, .refl t⟩
  | cons task rest =>
      have hStep :
          t.step = { t with agenda := rest }.run task := by
        simp [Turn.step, hAgenda]
      have hAll := hSmooth.agenda
      rw [hAgenda, List.forall_mem_cons] at hAll
      have hRest : Smooth { t with agenda := rest } := by
        refine ⟨?_, hSmooth.handlers, hAll.2⟩
        have hChain := hSmooth.guarded
        unfold Guarded at hChain
        rw [hAgenda] at hChain
        exact hChain.tail
      cases hDuty : task.isDuty with
      | true =>
          cases task with
          | owe d =>
              refine ⟨?_, steady_perform hAgenda hAll.1⟩
              rw [hStep]
              exact hRest.perform hAll.1
          | _ => contradiction
      | false =>
          have hCalm := Task.isCalm_of_isSmooth hAll.1 hDuty
          have hEased := Eased.run hRest.handlers hCalm
          rw [← hStep] at hEased
          refine
            ⟨hRest.of_eased hGuarded hEased, hMomentary.now,
              hMomentary.alive, hEased.untouched.begun,
              hEased.untouched.config, hEased.untouched.link, ?_⟩
          exact
            hSmooth.prospect_step_of_isFree
              (isFree_of_agenda hAgenda hDuty)

/-
  A smooth turn runs to its end on the connection it has, and
  shows just what it was to show.
-/
theorem Smooth.finish
    (hSmooth : t.Smooth) :
    t.finish.client.handlers.Calm ∧
      t.Steady t.finish ∧ t.finish.signs = t.prospect := by
  have hEnd : t.finish.Smooth ∧ t.Steady t.finish := by
    refine
      finish_induction
        (P := fun t' => t'.Smooth ∧ t.Steady t') ?_
        ⟨hSmooth, .refl t⟩
    rintro t' ⟨hBefore, hSteady⟩
    have hStep := hBefore.step
    exact ⟨hStep.1, hSteady.trans hStep.2⟩
  refine ⟨hEnd.1.handlers, hEnd.2, ?_⟩
  have hProspect := hEnd.2.prospect
  unfold prospect at hProspect
  rw [agenda_finish, List.flatMap_nil, List.append_nil]
    at hProspect
  exact hProspect

end Turn

end EventFeed

------------------------------------------------------------
-- Signals and Calm Handlers
------------------------------------------------------------

namespace EventFeed

/-
  What an operation owes can be done on the connection that
  it left, and the handlers are those from before.
-/
theorem Effect.smooth
    {now : Time}
    {begun : Array UInt64}
    {c : Client}
    {task : Task}
    {o : Outcome}
    (hEffect : Effect now begun c task o) :
    o.client.handlers = c.handlers ∧
      ∀ d ∈ o.owed,
        (Task.owe d).isSmooth o.client.link = true := by
  cases hEffect with
  | connect hPhase =>
      rw [Client.connect_of_accepted now hPhase]
      exact ⟨rfl, by simp⟩
  | opening attempt generation r next hBegun hLive hPhase hNext =>
      refine ⟨rfl, ?_⟩
      intro d hMember
      rcases List.mem_cons.mp hMember with rfl | hRest
      · rfl
      · rcases hNext with rfl | ⟨e, rfl⟩
        · contradiction
        · rw [List.mem_singleton.mp hRest]
          exact hLive
  | event attempt generation e =>
      refine ⟨rfl, ?_⟩
      unfold Client.accept
      cases e.isPing <;> simp [Task.isSmooth]
  | delivery generation e =>
      refine ⟨rfl, ?_⟩
      unfold Client.accept
      cases e.isPing <;> simp [Task.isSmooth]
  | _ => exact ⟨rfl, by simp [Task.isSmooth, Client.disconnect]⟩

/- Nothing but a connect remarks on a sign. -/
theorem Effect.signs_remarks
    {now : Time}
    {begun : Array UInt64}
    {c : Client}
    {task : Task}
    {o : Outcome}
    (hEffect : Effect now begun c task o)
    (hConnect : task ≠ .act .connect) :
    o.remarks.filterMap Remark.sign? = [] := by
  cases hEffect with
  | nothing _ remarks hStale =>
      exact (Remark.silent_of_isStale hStale).2
  | connect => contradiction
  | disconnect => simp [Client.disconnect, Remark.sign?]
  | opening => exact c.link.signs_openUp c.config now
  | event attempt generation e =>
      exact (Client.silent_deliveryRemark e).2
  | delivery generation e =>
      exact (Client.silent_deliveryRemark e).2
  | giveUp _ before why hBefore hManual hPhase hWhy =>
      rw [List.filterMap_append, hBefore.silent.2,
        Link.signs_giveUp hWhy]
      rfl
  | retry _ before hBefore =>
      rw [List.filterMap_append, hBefore.silent.2,
        Link.signs_retry]
      rfl
  | restart =>
      rw [List.filterMap_cons_none rfl, Link.signs_start]
  | _ => rfl

namespace Turn

/- What serving a signal comes to. -/
structure Served (t : Turn) (o : Outcome) (t' : Turn) : Prop where
  now : t'.now = t.now
  alive : t'.alive = t.alive
  begun : t'.begun = t.begun
  config : t'.client.config = t.client.config
  handlers : t'.client.handlers.Calm
  link : t'.client.link = o.client.link
  signs : t'.signs = t.signs ++ o.owed.flatMap Duty.signs

variable {t : Turn}
variable {signal : Task}
variable {o : Outcome}

/-
  When all handlers are calm, serving a signal makes of the
  connection what its operation does, and shows what that
  operation owed.
-/
theorem served_of_effect
    (hCalm : t.client.handlers.Calm)
    (hStep :
      ∃ answers,
        (t.facing signal).step =
          { { t with agenda := [] }.take o with
            answers := answers })
    (hEffect : Effect t.now t.begun t.client signal o)
    (hConnect : signal ≠ .act .connect) :
    t.Served o (t.serve signal) := by
  rcases hStep with ⟨answers, hStep⟩
  have hAlone : Smooth { t with agenda := [] } := by
    refine ⟨.nil, hCalm, ?_⟩
    intro task hMember
    contradiction
  have hSmooth : (t.facing signal).step.Smooth := by
    have hTake :=
      hAlone.take (o := o) hEffect.smooth.1 (by simp)
        hEffect.smooth.2
    rw [hStep]
    exact ⟨hTake.guarded, hTake.handlers, hTake.agenda⟩
  have hProspect :
      (t.facing signal).step.prospect =
        t.signs ++ o.owed.flatMap Duty.signs := by
    have hTake :=
      prospect_take (t := { t with agenda := [] })
        (hEffect.signs_remarks hConnect)
    rw [List.flatMap_nil, List.append_nil] at hTake
    rw [hStep]
    exact hTake
  rcases hSmooth.finish with ⟨hHandlers, hSteady, hSigns⟩
  rw [serve_eq_finish_step]
  refine ⟨?_, ?_, ?_, ?_, hHandlers, ?_, ?_⟩
  · exact hSteady.now.trans (momentary_step _).now
  · exact hSteady.alive.trans (momentary_step _).alive
  · refine hSteady.begun.trans ?_
    rw [hStep]
    rfl
  · refine hSteady.config.trans ?_
    rw [hStep]
    exact hEffect.config_eq
  · refine hSteady.link.trans ?_
    rw [hStep]
    rfl
  · exact hSigns.trans hProspect

/- So it is with a report of an attempt that has begun. -/
theorem served_report
    (hCalm : t.client.handlers.Calm)
    (hAlive : t.alive = true)
    {attempt : Nat}
    {generation : UInt64}
    (hBegun : t.begun[attempt]? = some generation)
    (r : Report) :
    t.Served (t.client.report t.now generation r)
      (t.serve (.act (.report attempt r))) := by
  refine
    served_of_effect hCalm ⟨.done :: t.answers, ?_⟩
      (.of_report hBegun r) (by simp)
  simp [facing, step, run, act, withAttempt, hBegun, hAlive,
    reply, take]

/- And with a reconnect timer. -/
theorem served_fireTimer
    (hCalm : t.client.handlers.Calm)
    (generation : UInt64) :
    t.Served (t.client.fireTimer t.now generation)
      (t.serve (.fireTimer generation)) := by
  refine
    served_of_effect hCalm ⟨t.answers, ?_⟩
      (.of_fireTimer generation) (by simp)
  simp [facing, step, run, take]

end Turn

end EventFeed
