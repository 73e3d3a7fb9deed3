import EventFeed.Client.Turn

/-
  This file proves that turns come to an end: every step of
  a turn makes it lighter, so the steps that its weight
  allows empty its agenda.

  Key results include:
    * `Turn.weight_step_lt`
    * `Turn.agenda_finish`
-/

------------------------------------------------------------
-- Operations Leave Handlers Alone
------------------------------------------------------------

namespace EventFeed

namespace Outcome

/- How much work the duties of an outcome can cause. -/
def owedWeight (o : Outcome) : Nat :=
  Turn.dutiesWeight o.owed

end Outcome

namespace Client

/-
  An outcome is mild when it leaves the handlers alone and
  its duties weigh at most `n`.
-/
def Mild (c : Client) (n : Nat) (o : Outcome) : Prop :=
  o.client.handlers = c.handlers ∧ o.owedWeight ≤ n

theorem mild_unchanged (c : Client) (n : Nat) :
    c.Mild n c.unchanged :=
  ⟨rfl, Nat.zero_le n⟩

theorem mild_remarked (c : Client) (n : Nat) (r : Remark) :
    c.Mild n (c.remarked r) :=
  ⟨rfl, Nat.zero_le n⟩

theorem mild_connect (c : Client) (now : Time) :
    c.Mild 0 (c.connect now) := by
  unfold connect
  split
  · exact ⟨rfl, Nat.le_refl 0⟩
  · exact c.mild_unchanged 0

theorem mild_disconnect (c : Client) :
    c.Mild 2 c.disconnect :=
  ⟨rfl, Nat.le_refl 2⟩

theorem mild_accept (c : Client) (e : Event) :
    c.Mild 3 (c.accept e) := by
  refine ⟨rfl, ?_⟩
  simp only [accept, Outcome.owedWeight]
  split <;> simp [Turn.dutiesWeight, Turn.dutyWeight]

theorem mild_opening
    (c : Client)
    (now : Time)
    (next : List Duty) :
    c.Mild (2 + Turn.dutiesWeight next)
      (c.opening now next) :=
  ⟨rfl, Nat.le_refl _⟩

theorem mild_recover
    (c : Client)
    (now : Time)
    (before : List Remark) :
    c.Mild 2 (c.recover now before) := by
  refine ⟨rfl, ?_⟩
  simp only [recover, Outcome.owedWeight, noticeDuty]
  cases (c.link.recover c.config now).notice <;>
    simp [Turn.dutiesWeight, Turn.dutyWeight]

theorem Mild.mono
    {c : Client}
    {m n : Nat}
    {o : Outcome}
    (h : c.Mild m o)
    (hmn : m ≤ n) :
    c.Mild n o :=
  ⟨h.1, Nat.le_trans h.2 hmn⟩

theorem mild_takeEvent
    (c : Client)
    (now : Time)
    (generation : UInt64)
    (e : Event) :
    c.Mild 6 (c.takeEvent now generation e) := by
  unfold takeEvent
  split
  · split
    · exact c.mild_opening now [.deliver generation e]
    · exact
        Mild.mono
          (mild_accept { c with link := c.link.arm now } e)
          (show 3 ≤ 6 by decide)
    · exact c.mild_unchanged 6
  · exact c.mild_remarked 6 _

theorem mild_takeError
    (c : Client)
    (generation : UInt64)
    (e : FeedError) :
    c.Mild 2 (c.takeError generation e) := by
  unfold takeError
  split
  · exact ⟨rfl, Nat.le_refl 2⟩
  · exact c.mild_remarked 2 _

theorem mild_takeEnd
    (c : Client)
    (now : Time)
    (generation : UInt64) :
    c.Mild 2 (c.takeEnd now generation) := by
  unfold takeEnd
  split
  · exact
      mild_recover
        { c with link := { c.link with transport := none } }
        now []
  · exact c.mild_unchanged 2

theorem mild_report
    (c : Client)
    (now : Time)
    (generation : UInt64)
    (r : Report) :
    c.Mild 6 (c.report now generation r) := by
  cases r with
  | opened =>
      simp only [report]
      split
      · exact (c.mild_opening now []).mono (show 2 ≤ 6 by decide)
      · exact c.mild_unchanged 6
  | event e => exact c.mild_takeEvent now generation e
  | error e =>
      exact
        (c.mild_takeError generation e).mono
          (show 2 ≤ 6 by decide)
  | closed =>
      exact
        (c.mild_takeEnd now generation).mono
          (show 2 ≤ 6 by decide)

theorem mild_fireTimer
    (c : Client)
    (now : Time)
    (generation : UInt64) :
    c.Mild 2 (c.fireTimer now generation) := by
  unfold fireTimer
  split
  · exact c.mild_remarked 2 _
  · exact ⟨rfl, Nat.le_refl 2⟩

theorem mild_fireAlarm
    (c : Client)
    (now : Time)
    (generation token : UInt64) :
    c.Mild 2 (c.fireAlarm now generation token) := by
  unfold fireAlarm
  simp only
  split
  · exact ⟨rfl, Nat.zero_le 2⟩
  · exact
      mild_recover
        { c with
          link :=
            { c.link with
              keepalive := c.link.keepalive.stop } } now _

end Client

------------------------------------------------------------
-- Weights of Parts
------------------------------------------------------------

namespace Turn

theorem agendaWeight_append (a b : List Task) :
    agendaWeight (a ++ b) = agendaWeight a + agendaWeight b := by
  induction a with
  | nil => simp [agendaWeight]
  | cons x rest ih =>
      simp only [List.cons_append, agendaWeight, ih]
      omega

theorem agendaWeight_cons (x : Task) (b : List Task) :
    agendaWeight (x :: b) = taskWeight x + agendaWeight b :=
  rfl

theorem agendaWeight_owe (owed : List Duty) :
    agendaWeight (owed.map Task.owe) = dutiesWeight owed := by
  induction owed with
  | nil => rfl
  | cons d rest ih =>
      simp only [List.map_cons, agendaWeight, taskWeight,
        dutiesWeight, ih]

theorem agendaWeight_owed (o : Outcome) :
    agendaWeight (o.owed.map Task.owe) = o.owedWeight :=
  agendaWeight_owe o.owed

theorem agendaWeight_reaction (r : List Action) :
    agendaWeight (r.flatMap fun a => [.act a, .note a]) =
      reactionWeight r := by
  induction r with
  | nil => rfl
  | cons a rest ih =>
      simp only [List.flatMap_cons, agendaWeight_append, ih]
      simp only [agendaWeight, taskWeight, reactionWeight]

theorem agendaWeight_acts_le (r : List Action) :
    agendaWeight (r.map Task.act) ≤ reactionWeight r := by
  induction r with
  | nil => exact Nat.le_refl 0
  | cons a rest ih =>
      simp only [List.map_cons, agendaWeight_cons, taskWeight,
        reactionWeight]
      omega

theorem agendaWeight_dropWhile_le
    (p : Task → Bool)
    (a : List Task) :
    agendaWeight (a.dropWhile p) ≤ agendaWeight a := by
  induction a with
  | nil => exact Nat.le_refl _
  | cons x rest ih =>
      rw [List.dropWhile_cons]
      split
      · rw [agendaWeight_cons]
        omega
      · exact Nat.le_refl _

theorem registryWeight_register
    (r : Registry Handler)
    (s : Slot)
    (h : Handler) :
    registryWeight (r.register s h) + slotWeight (r.get s) =
      registryWeight r + handlerWeight h := by
  cases s <;>
    simp only [Registry.register, Registry.put, Registry.get,
      registryWeight, slotWeight] <;> omega

theorem registryWeight_unregister_le
    (r : Registry Handler)
    (s : Slot) :
    registryWeight (r.unregister s) ≤ registryWeight r := by
  cases s <;>
    simp only [Registry.unregister, Registry.put,
      registryWeight, slotWeight] <;> omega

theorem handlerWeight_headD_tail (h : Handler) :
    handlerWeight h =
      reactionWeight (h.headD []) + handlerWeight h.tail := by
  cases h <;> simp [handlerWeight, reactionWeight]

theorem eight_le_actionWeight (a : Action) :
    8 ≤ actionWeight a := by
  cases a <;> simp only [actionWeight] <;> omega

------------------------------------------------------------
-- Each Step Is Lighter
------------------------------------------------------------

theorem weight_take_le
    (t : Turn)
    {n : Nat}
    {o : Outcome}
    (h : t.client.Mild n o) :
    (t.take o).weight ≤ t.weight + n := by
  obtain ⟨h₁, h₂⟩ := h
  simp only [weight, take, agendaWeight_append,
    agendaWeight_owed, h₁]
  omega

@[simp]
theorem weight_reply (t : Turn) (a : Answer) :
    (t.reply a).weight = t.weight :=
  rfl

theorem weight_withAttempt_le
    (t : Turn)
    (attempt : Nat)
    (go : UInt64 → Turn)
    {n : Nat}
    (h : ∀ g, (go g).weight ≤ n)
    (ht : t.weight ≤ n) :
    (t.withAttempt attempt go).weight ≤ n := by
  unfold withAttempt
  split
  · exact h _
  · simpa using ht

theorem weight_ifHeld_le
    (t : Turn)
    (go : Turn → Turn)
    {n : Nat}
    (h : (go t).weight ≤ n)
    (ht : t.weight ≤ n) :
    (t.ifHeld go).weight ≤ n := by
  unfold ifHeld
  split
  · exact h
  · simpa using ht

theorem weight_answer_le (t : Turn) (q : Query) :
    (t.answer q).weight ≤ t.weight := by
  have hr : ∀ a, (t.reply a).weight ≤ t.weight :=
    fun _ => Nat.le_refl _
  cases q with
  | isLive attempt =>
      exact
        weight_withAttempt_le t attempt _ (fun _ => hr _)
          (Nat.le_refl _)
  | describeAttempt attempt =>
      exact
        weight_withAttempt_le t attempt _ (fun _ => hr _)
          (Nat.le_refl _)
  | isRegistered slot =>
      exact weight_ifHeld_le t _ (hr _) (Nat.le_refl _)
  | describeHandlers =>
      exact weight_ifHeld_le t _ (hr _) (Nat.le_refl _)
  | describeClient =>
      exact weight_ifHeld_le t _ (hr _) (Nat.le_refl _)
  | isAlive => exact hr _

theorem weight_unwind_le (t : Turn) :
    t.unwind.weight ≤ t.weight := by
  have hd :=
    agendaWeight_dropWhile_le (fun task => !task.isReturn)
      t.agenda
  unfold unwind
  split
  · next slot answers rest h =>
      rw [h, agendaWeight_cons] at hd
      simp only [weight]
      omega
  · simp only [weight]
    exact Nat.add_le_add_left (Nat.zero_le _) _

theorem weight_act_lt (t : Turn) (a : Action) :
    (t.act a).weight < t.weight + actionWeight a := by
  have h8 := eight_le_actionWeight a
  cases a with
  | connect =>
      refine Nat.lt_of_le_of_lt
        (weight_ifHeld_le _ _ ?_ (Nat.le_refl _)) (by omega)
      split
      · simp
      · exact weight_take_le t (t.client.mild_connect t.now)
  | disconnect =>
      refine Nat.lt_of_le_of_lt
        (weight_ifHeld_le _ _
          (weight_take_le t t.client.mild_disconnect)
          (Nat.le_add_right _ 2)) (by omega)
  | report attempt r =>
      refine Nat.lt_of_le_of_lt
        (weight_withAttempt_le _ _ _ (n := t.weight + 6) ?_
          (Nat.le_add_right _ 6)) (by omega)
      intro g
      split
      · exact weight_take_le t (t.client.mild_report t.now g r)
      · simp
  | register slot reactions =>
      simp only [actionWeight]
      refine Nat.lt_of_le_of_lt
        (weight_ifHeld_le _ _
          (n := t.weight + handlerWeight reactions) ?_
          (Nat.le_add_right _ _)) (by omega)
      have h :=
        registryWeight_register t.client.handlers slot reactions
      simp only [weight, reply, Client.withHandlers]
      omega
  | unregister slot =>
      refine Nat.lt_of_le_of_lt
        (weight_ifHeld_le _ _ ?_ (Nat.le_refl _)) (by omega)
      have h :=
        registryWeight_unregister_le t.client.handlers slot
      simp only [weight, reply, Client.withHandlers]
      omega
  | ask q =>
      exact Nat.lt_of_le_of_lt (weight_answer_le t q) (by omega)
  | release => simp only [act, weight, reply]; omega
  | panic =>
      exact Nat.lt_of_le_of_lt (weight_unwind_le t) (by omega)
  | batch actions =>
      have h := agendaWeight_acts_le actions
      simp only [act, weight, agendaWeight_append,
        agendaWeight_cons, taskWeight, actionWeight]
      omega
  | idle => simp only [act, weight, reply]; omega

theorem weight_handCall_lt (t : Turn) (c : Callback) :
    (t.handCall c).weight < t.weight + 2 := by
  unfold handCall
  split
  · simp [weight]
  · next handler h =>
      have h₁ :=
        registryWeight_register t.client.handlers c.slot
          handler.tail
      have h₂ := handlerWeight_headD_tail handler
      rw [h] at h₁
      simp only [weight, Client.withHandlers,
        agendaWeight_append, agendaWeight_cons,
        agendaWeight_reaction, taskWeight, slotWeight] at *
      omega

theorem weight_run_lt (t : Turn) (x : Task) :
    (t.run x).weight < t.weight + taskWeight x := by
  cases x with
  | act a => exact weight_act_lt t a
  | note a => simp [run, weight, taskWeight]
  | gather n => simp [run, weight, taskWeight]
  | owe d =>
      cases d with
      | call c => exact weight_handCall_lt t c
      | deliver g e =>
          have h : t.client.Mild 3
              (t.client.perform (.deliver g e)) := by
            simp only [Client.perform]
            split
            · exact t.client.mild_accept e
            · exact t.client.mild_unchanged 3
          exact Nat.lt_of_le_of_lt (weight_take_le t h)
            (by simp [taskWeight, dutyWeight])
      | countPing =>
          exact Nat.lt_of_le_of_lt
            (weight_take_le t
              (n := 0) ⟨rfl, Nat.le_refl 0⟩)
            (by simp [taskWeight, dutyWeight])
  | leave s as => simp [run, weight, taskWeight]
  | fireTimer g =>
      exact Nat.lt_of_le_of_lt
        (weight_take_le t (t.client.mild_fireTimer t.now g))
        (by simp [taskWeight])
  | fireAlarm g token =>
      exact Nat.lt_of_le_of_lt
        (weight_take_le t
          (t.client.mild_fireAlarm t.now g token))
        (by simp [taskWeight])

/- A step makes a turn lighter while its agenda lasts. -/
theorem weight_step_lt
    (t : Turn)
    (h : t.agenda ≠ []) :
    t.step.weight < t.weight := by
  unfold step
  split
  · contradiction
  · next task rest heq =>
      have h₁ := weight_run_lt { t with agenda := rest } task
      simp only [weight] at *
      rw [heq, agendaWeight_cons]
      omega

/- Enough steps empty the agenda. -/
theorem agenda_runFor
    (n : Nat)
    (t : Turn)
    (h : t.weight ≤ n) :
    (runFor n t).agenda = [] := by
  induction n generalizing t with
  | zero =>
      by_cases hn : t.agenda = []
      · exact hn
      · have := weight_step_lt t hn
        omega
  | succ n ih =>
      unfold runFor
      split
      · assumption
      · next heq =>
          exact ih _ (by
            have := weight_step_lt t (by simp [heq])
            omega)

/- A finished turn has nothing left on its agenda. -/
theorem agenda_finish (t : Turn) : t.finish.agenda = [] :=
  agenda_runFor t.weight t (Nat.le_refl _)

end Turn

end EventFeed
