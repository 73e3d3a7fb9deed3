import EventFeed.Proofs.Client.Run

/-
  This file defines the history of a run: what it has shown
  of the connection so far.

  The story of a turn lists the accepted connects and the
  calls in the order in which they start.  A call that is
  owed stands at its end already: nothing can come before
  it, so handing it over does not change the story.

  A move leaves the connection and its history as they are,
  or it is an operation whose effect is added to both.

  Key definitions include:
    * `Sign`
    * `Turn.story`
    * `Remark.isMilestone`
    * `Turn.milestones`
    * `Turn.teardowns`
    * `Turn.retries`
    * `Turn.Still`
    * `Turn.Acted`

  Key results include:
    * `Turn.still_or_acted`
    * `Turn.history_induction`
-/

------------------------------------------------------------
-- Signs
------------------------------------------------------------

namespace EventFeed

/-
  What shows of a connection: that a connect was accepted, or
  that a call was made.
-/
inductive Sign
  | connect
  | call (c : Callback)
deriving Inhabited, Repr

/- The sign that a remark is. -/
def Remark.sign? : Remark → Option Sign
  | .connecting _ _ => some .connect
  | _ => none

/- The sign that seeing to a duty will be. -/
def Duty.sign? : Duty → Option Sign
  | .call c => some (.call c)
  | _ => none

/- The sign that is still to come of an entry. -/
def Task.sign? : Task → Option Sign
  | .owe d => d.sign?
  | _ => none

/- The sign that was observed. -/
def Observation.sign? : Observation → Option Sign
  | .remark r => r.sign?
  | .call c _ => some (.call c)
  | _ => none

/- The signs of an operation, in order. -/
def Outcome.signs (o : Outcome) : List Sign :=
  o.remarks.filterMap Remark.sign? ++
    o.owed.filterMap Duty.sign?

namespace Turn

/- The signs of a run so far, in order. -/
def signs (t : Turn) : List Sign :=
  t.seen.reverse.filterMap Observation.sign?

/- The signs that are still owed. -/
def owedSigns (t : Turn) : List Sign :=
  t.agenda.filterMap Task.sign?

/- The signs of a run, those that are owed included. -/
def story (t : Turn) : List Sign :=
  t.signs ++ t.owedSigns

end Turn

end EventFeed

------------------------------------------------------------
-- Milestones
------------------------------------------------------------

namespace EventFeed

namespace Remark

/- Whether it is remarked that the connection moved on. -/
def isMilestone : Remark → Bool
  | connecting _ _ => true
  | starting _ _ => true
  | connected _ _ => true
  | lost => true
  | gaveUp _ => true
  | waiting _ _ => true
  | disconnected _ => true
  | _ => false

/- Whether an attempt was retired. -/
def isTeardown : Remark → Bool
  | starting _ _ => true
  | lost => true
  | gaveUp _ => true
  | waiting _ _ => true
  | disconnected _ => true
  | _ => false

/- Whether an attempt was started. -/
def isStart : Remark → Bool
  | starting _ _ => true
  | _ => false

/- Whether a connect was accepted. -/
def isConnect : Remark → Bool
  | connecting _ _ => true
  | _ => false

/- Whether a disconnect took effect. -/
def isDisconnect : Remark → Bool
  | disconnected _ => true
  | _ => false

/-
  How many waits there were since the last connect or opening,
  by milestones that stand last first.
-/
def waits : List Remark → Nat
  | [] => 0
  | connecting _ _ :: _ => 0
  | connected _ _ :: _ => 0
  | waiting _ _ :: earlier => waits earlier + 1
  | _ :: earlier => waits earlier

end Remark

/- The milestone that was observed. -/
def Observation.milestone? : Observation → Option Remark
  | .remark r => if r.isMilestone then some r else none
  | _ => none

/- The milestones of an operation, in order. -/
def Outcome.milestones (o : Outcome) : List Remark :=
  o.remarks.filter Remark.isMilestone

namespace Turn

/- The milestones of a run so far, last first. -/
def milestones (t : Turn) : List Remark :=
  t.seen.filterMap Observation.milestone?

/- How often an attempt was retired so far. -/
def teardowns (t : Turn) : Nat :=
  t.milestones.countP Remark.isTeardown

/- How many attempts were started so far. -/
def starts (t : Turn) : Nat :=
  t.milestones.countP Remark.isStart

/- How many connects were accepted so far. -/
def connects (t : Turn) : Nat :=
  t.milestones.countP Remark.isConnect

/- How many disconnects took effect so far. -/
def disconnects (t : Turn) : Nat :=
  t.milestones.countP Remark.isDisconnect

/- How many failures in a row were answered by waiting. -/
def retries (t : Turn) : Nat :=
  Remark.waits t.milestones

end Turn

end EventFeed

------------------------------------------------------------
-- Remarks of Operations
------------------------------------------------------------

namespace EventFeed

/-
  Remarks that came too late for anything, or that lead up to
  something else.
-/
def Remark.Silent (remarks : List Remark) : Prop :=
  remarks.filter Remark.isMilestone = [] ∧
    remarks.filterMap Remark.sign? = []

theorem Remark.silent_of_isStale
    {remarks : List Remark}
    (hStale : ∀ r ∈ remarks, r.isStale = true) :
    Remark.Silent remarks := by
  have hPlain :
      ∀ r : Remark, r.isStale = true →
        r.isMilestone = false ∧ r.sign? = none := by
    intro r hStale
    cases r <;> first | exact ⟨rfl, rfl⟩ | contradiction
  constructor
  · rw [List.filter_eq_nil_iff]
    intro r hMember
    simpa using (hPlain r (hStale r hMember)).1
  · rw [List.filterMap_eq_nil_iff]
    intro r hMember
    exact (hPlain r (hStale r hMember)).2

theorem Forewarning.silent
    {before : List Remark}
    (hBefore : Forewarning before) :
    Remark.Silent before := by
  cases hBefore <;> exact ⟨rfl, rfl⟩

theorem Client.silent_deliveryRemark (e : Event) :
    Remark.Silent [Client.deliveryRemark e] := by
  unfold Client.deliveryRemark
  split <;> exact ⟨rfl, rfl⟩

namespace Link

variable (l : Link)
variable (config : Config)
variable (now : Time)

theorem silent_enterRemarks (next : Phase) :
    Remark.Silent (l.enterRemarks next) := by
  unfold enterRemarks
  split <;> exact ⟨rfl, rfl⟩

@[simp]
theorem milestones_start :
    (l.start config now).2.filter Remark.isMilestone =
      [.starting config.transport.kind (l.generation + 1)] := by
  simp [start, enter, retire, Remark.isMilestone,
    (l.silent_enterRemarks .connecting).1]

@[simp]
theorem signs_start :
    (l.start config now).2.filterMap Remark.sign? = [] := by
  simp [start, enter, retire, Remark.sign?,
    (l.silent_enterRemarks .connecting).2]

@[simp]
theorem milestones_shut :
    l.shut.2.filter Remark.isMilestone = [] :=
  (l.silent_enterRemarks .closed).1

@[simp]
theorem signs_shut :
    l.shut.2.filterMap Remark.sign? = [] :=
  (l.silent_enterRemarks .closed).2

@[simp]
theorem milestones_openUp :
    (l.openUp config now).2.filter Remark.isMilestone =
      [.connected config.url (l.elapsed now)] := by
  simp [openUp, Remark.isMilestone,
    (l.silent_enterRemarks .opened).1]

@[simp]
theorem signs_openUp :
    (l.openUp config now).2.filterMap Remark.sign? = [] := by
  simp [openUp, Remark.sign?,
    (l.silent_enterRemarks .opened).2]

@[simp]
theorem milestones_retry :
    (l.retry config now).remarks.filter Remark.isMilestone =
      [.waiting config.reconnectInterval (l.attempts + 1)] := by
  simp [retry, Remark.isMilestone,
    (l.silent_enterRemarks .reconnecting).1]

@[simp]
theorem signs_retry :
    (l.retry config now).remarks.filterMap Remark.sign? =
      [] := by
  simp [retry, Remark.sign?,
    (l.silent_enterRemarks .reconnecting).2]

variable {l config}

theorem milestones_giveUp
    {why : Remark}
    (hWhy : l.EndsWith config why) :
    (l.giveUp why).remarks.filter Remark.isMilestone =
      [why] := by
  cases hWhy <;>
    simp [giveUp, Remark.isMilestone, List.filter_cons,
      (l.silent_enterRemarks .closed).1]

theorem signs_giveUp
    {why : Remark}
    (hWhy : l.EndsWith config why) :
    (l.giveUp why).remarks.filterMap Remark.sign? = [] := by
  cases hWhy <;> exact (l.silent_enterRemarks .closed).2

end Link

end EventFeed

------------------------------------------------------------
-- Milestones and Signs of Effects
------------------------------------------------------------

namespace EventFeed

namespace Outcome

variable {c d : Client}
variable {before : List Remark}
variable {why : Remark}
variable (now : Time)

theorem milestones_connect
    (hPhase : c.link.phase.acceptsConnect = true) :
    (c.connect now).milestones =
      [.connecting c.config.url c.config.transport.kind,
        .starting c.config.transport.kind
          (c.link.generation + 1)] := by
  rw [Client.connect_of_accepted now hPhase]
  simp [milestones, List.filter_cons, Remark.isMilestone]

theorem signs_connect
    (hPhase : c.link.phase.acceptsConnect = true) :
    (c.connect now).signs = [.connect] := by
  rw [Client.connect_of_accepted now hPhase]
  simp [signs, Remark.sign?]

theorem milestones_disconnect (c : Client) :
    c.disconnect.milestones = [.disconnected c.config.url] := by
  simp [milestones, Client.disconnect, Remark.isMilestone]

theorem signs_disconnect (c : Client) :
    c.disconnect.signs = [.call .closed] := by
  simp [signs, Client.disconnect, Remark.sign?, Duty.sign?]

theorem milestones_opening
    (c : Client)
    (next : List Duty) :
    (c.opening now next).milestones =
      [.connected c.config.url (c.link.elapsed now)] := by
  simp [milestones, Client.opening]

theorem signs_opening
    (c : Client)
    (next : List Duty) :
    (c.opening now next).signs =
      .call .opened :: next.filterMap Duty.sign? := by
  simp [signs, Client.opening, Duty.sign?]

theorem milestones_accept
    (c : Client)
    (e : Event) :
    (c.accept e).milestones = [] :=
  (Client.silent_deliveryRemark e).1

theorem signs_accept
    (c : Client)
    (e : Event) :
    (c.accept e).signs = [.call e.callback] := by
  simp only [signs, Client.accept,
    (Client.silent_deliveryRemark e).2]
  split <;> rfl

theorem milestones_giveUp
    (hBefore : Forewarning before)
    (hWhy : c.link.EndsWith c.config why)
    (owed : List Duty) :
    (Outcome.mk d (before ++ (c.link.giveUp why).remarks)
        owed).milestones = [why] := by
  simp [milestones, hBefore.silent.1,
    Link.milestones_giveUp hWhy]

theorem signs_giveUp
    (hBefore : Forewarning before)
    (hWhy : c.link.EndsWith c.config why) :
    (Outcome.mk d (before ++ (c.link.giveUp why).remarks)
        [.call .closed]).signs = [.call .closed] := by
  simp [signs, hBefore.silent.2, Link.signs_giveUp hWhy,
    Duty.sign?]

theorem milestones_retry
    (hBefore : Forewarning before)
    (owed : List Duty) :
    (Outcome.mk d
        (before ++ (c.link.retry c.config now).remarks)
        owed).milestones =
      [.waiting c.config.reconnectInterval
        (c.link.attempts + 1)] := by
  simp [milestones, hBefore.silent.1]

theorem signs_retry
    (hBefore : Forewarning before)
    (attempt : UInt32) :
    (Outcome.mk d
        (before ++ (c.link.retry c.config now).remarks)
        [.call (.reconnecting attempt)]).signs =
      [.call (.reconnecting attempt)] := by
  simp [signs, hBefore.silent.2, Duty.sign?]

theorem milestones_restart
    (l : Link)
    (attempt : UInt32)
    (owed : List Duty) :
    (Outcome.mk d
        (.retrying attempt c.config.url ::
          (l.start c.config now).2)
        owed).milestones =
      [.starting c.config.transport.kind
        (l.generation + 1)] := by
  simp [milestones, Remark.isMilestone]

theorem signs_restart
    (l : Link)
    (attempt : UInt32) :
    (Outcome.mk d
        (.retrying attempt c.config.url ::
          (l.start c.config now).2)
        [.call (.reconnected attempt)]).signs =
      [.call (.reconnected attempt)] := by
  rw [signs, List.filterMap_cons_none rfl, Link.signs_start]
  rfl

end Outcome

end EventFeed

------------------------------------------------------------
-- Moves and History
------------------------------------------------------------

namespace EventFeed

namespace Turn

/-
  The connection and its history stayed as they were: at most
  the attempt whose task is held began.
-/
structure Still (t t' : Turn) : Prop where
  config : t'.client.config = t.client.config
  link : t'.client.link = t.client.link
  tally : t'.client.tally = t.client.tally
  begun :
    t'.begun = t.begun ∨
      ∃ generation,
        t.client.link.transport = some generation ∧
          t'.begun = t.begun.push generation
  owed : ∀ d, .owe d ∈ t'.agenda → .owe d ∈ t.agenda
  milestones : t'.milestones = t.milestones
  story : t'.story = t.story

/- An operation had its effect. -/
structure Acted
    (t : Turn)
    (task : Task)
    (o : Outcome)
    (t' : Turn) : Prop where
  first : ∃ rest, t.agenda = task :: rest
  effect : Effect t.now t.begun t.client task o
  client : t'.client = o.client
  begun : t'.begun = t.begun
  owed :
    ∀ d, .owe d ∈ t'.agenda → d ∈ o.owed ∨ .owe d ∈ t.agenda
  milestones :
    t'.milestones = o.milestones.reverse ++ t.milestones
  story : t'.story = t.story ++ o.signs

variable {t t' : Turn}

theorem Acted.member
    {task : Task}
    {o : Outcome}
    (hActed : t.Acted task o t') :
    task ∈ t.agenda := by
  rcases hActed.first with ⟨rest, hAgenda⟩
  rw [hAgenda]
  exact List.mem_cons_self

theorem Still.countP_milestones
    (hStill : t.Still t')
    (p : Remark → Bool) :
    t'.milestones.countP p = t.milestones.countP p := by
  rw [hStill.milestones]

/- A count of milestones goes on with those of an operation. -/
theorem Acted.countP_milestones
    {task : Task}
    {o : Outcome}
    (hActed : t.Acted task o t')
    (p : Remark → Bool) :
    t'.milestones.countP p =
      o.milestones.countP p + t.milestones.countP p := by
  rw [hActed.milestones, List.countP_append,
    List.countP_reverse]

/- Entries without a call owe no signs. -/
theorem filterMap_sign?
    {agenda : List Task}
    (hCalls : ∀ task ∈ agenda, task.isCall = false) :
    agenda.filterMap Task.sign? = [] := by
  rw [List.filterMap_eq_nil_iff]
  intro task hMember
  have hCall := hCalls task hMember
  cases task with
  | owe d =>
      cases d with
      | call c => contradiction
      | _ => rfl
  | _ => rfl

/- An aside is neither a milestone nor a sign. -/
theorem of_isAside
    {new : List Observation}
    (hNew : ∀ o ∈ new, o.isAside = true) :
    new.filterMap Observation.milestone? = [] ∧
      new.reverse.filterMap Observation.sign? = [] := by
  rw [List.filterMap_eq_nil_iff, List.filterMap_eq_nil_iff]
  constructor
  · intro o hMember
    have hAside := hNew o hMember
    unfold Observation.isAside at hAside
    split at hAside <;> first | rfl | contradiction
  · intro o hMember
    have hAside := hNew o (List.mem_reverse.mp hMember)
    unfold Observation.isAside at hAside
    split at hAside <;> first | rfl | contradiction

/- What an operation remarks becomes part of the history. -/
theorem milestones_take (o : Outcome) :
    (o.remarks.map Observation.remark).reverse.filterMap
        Observation.milestone? =
      o.milestones.reverse := by
  have hGuard :
      Observation.milestone? ∘ Observation.remark =
        Option.guard Remark.isMilestone :=
    funext fun r => by simp [Observation.milestone?, Option.guard]
  rw [← List.map_reverse, List.filterMap_map, hGuard,
    List.filterMap_eq_filter, List.filter_reverse]
  rfl

theorem signs_take (o : Outcome) :
    (o.remarks.map Observation.remark).reverse.reverse.filterMap
        Observation.sign? =
      o.remarks.filterMap Remark.sign? := by
  rw [List.reverse_reverse, List.filterMap_map]
  rfl

/- The signs that an operation owes, once they are owed. -/
theorem owedSigns_take
    (owed : List Duty)
    {back : List Task}
    (hBack : ∀ task ∈ back, task.isCall = false) :
    (owed.map Task.owe ++ back).filterMap Task.sign? =
      owed.filterMap Duty.sign? := by
  rw [List.filterMap_append, filterMap_sign? hBack,
    List.append_nil, List.filterMap_map]
  rfl

/- A duty is not among entries that are none. -/
theorem owe_mem_of_append
    {d : Duty}
    {front back : List Task}
    (hFront : ∀ task ∈ front, task.isDuty = false)
    (hMember : .owe d ∈ front ++ back) :
    .owe d ∈ back := by
  rcases List.mem_append.mp hMember with hFirst | hLast
  · have hDuty := hFront _ hFirst
    contradiction
  · exact hLast

theorem isCall_of_append
    {front back : List Task}
    (hFront : ∀ task ∈ front, task.isDuty = false)
    (hBack : ∀ task ∈ back, task.isCall = false) :
    ∀ task ∈ front ++ back, task.isCall = false := by
  intro task hMember
  rcases List.mem_append.mp hMember with hFirst | hLast
  · exact isCall_of_isDuty (hFront task hFirst)
  · exact hBack task hLast

/- Time may pass, or the client end, with no trace. -/
theorem still_of_pass
    (hClient : t'.client = t.client)
    (hBegun : t'.begun = t.begun)
    (hAgenda : t'.agenda = t.agenda)
    (hSeen : t'.seen = t.seen) :
    t.Still t' where
  config := by rw [hClient]
  link := by rw [hClient]
  tally := by rw [hClient]
  begun := Or.inl hBegun
  owed := by
    rw [hAgenda]
    exact fun _ hMember => hMember
  milestones := by rw [milestones, hSeen, milestones]
  story := by
    rw [story, signs, owedSigns, hSeen, hAgenda]
    rfl

/- What was neither remarked nor owed leaves no trace. -/
theorem still_of_aside
    {front back : List Task}
    {new : List Observation}
    (hOrderly : t.Orderly)
    (hFree : t.isFree = true)
    (hUntouched : t.Untouched t')
    (hAgenda : t'.agenda = front ++ back)
    (hFront : ∀ task ∈ front, task.isDuty = false)
    (hBack : back <:+ t.agenda)
    (hSeen : t'.seen = new ++ t.seen)
    (hNew : ∀ o ∈ new, o.isAside = true) :
    t.Still t' where
  config := hUntouched.config
  link := hUntouched.link
  tally := hUntouched.tally
  begun := Or.inl hUntouched.begun
  owed := by
    intro d hMember
    rw [hAgenda] at hMember
    exact hBack.subset (owe_mem_of_append hFront hMember)
  milestones := by
    unfold milestones
    rw [hSeen, List.filterMap_append, (of_isAside hNew).1]
    rfl
  story := by
    have hOld := hOrderly.isCall_of_isFree hFree
    have hCalls :=
      isCall_of_append hFront fun task hMember =>
        hOld task (hBack.subset hMember)
    unfold story signs owedSigns
    rw [hAgenda, filterMap_sign? hCalls, filterMap_sign? hOld,
      hSeen, List.reverse_append, List.filterMap_append,
      (of_isAside hNew).2, List.append_nil]

/- A call that is handed over was part of the story already. -/
theorem still_of_hand
    {c : Callback}
    {heard : Bool}
    {front back : List Task}
    (hOrderly : t.Orderly)
    (hCall : t.agenda = .owe (.call c) :: back)
    (hUntouched : t.Untouched t')
    (hAgenda : t'.agenda = front ++ back)
    (hFront : ∀ task ∈ front, task.isDuty = false)
    (hSeen : t'.seen = .call c heard :: t.seen) :
    t.Still t' where
  config := hUntouched.config
  link := hUntouched.link
  tally := hUntouched.tally
  begun := Or.inl hUntouched.begun
  owed := by
    intro d hMember
    rw [hAgenda] at hMember
    rw [hCall]
    exact
      List.mem_cons_of_mem _ (owe_mem_of_append hFront hMember)
  milestones := by
    unfold milestones
    rw [hSeen]
    rfl
  story := by
    have hOld := hOrderly.isCall_of_cons hCall
    have hCalls := isCall_of_append hFront hOld
    have hOwed : t.owedSigns = [.call c] := by
      simpa [owedSigns, hCall, Task.sign?, Duty.sign?] using
        filterMap_sign? hOld
    rw [story, owedSigns, hAgenda, filterMap_sign? hCalls,
      signs, hSeen, List.reverse_cons, List.filterMap_append,
      story, hOwed, List.append_nil]
    rfl

/- That an attempt begins is neither a milestone nor a sign. -/
theorem still_of_begin
    {generation : UInt64}
    {kind : Transport.Kind}
    {url : Url}
    (hHeld : t.client.link.transport = some generation)
    (hClient : t'.client = t.client)
    (hBegun : t'.begun = t.begun.push generation)
    (hAgenda : t'.agenda = t.agenda)
    (hSeen : t'.seen = .began kind url :: t.seen) :
    t.Still t' where
  config := by rw [hClient]
  link := by rw [hClient]
  tally := by rw [hClient]
  begun := Or.inr ⟨generation, hHeld, hBegun⟩
  owed := by
    rw [hAgenda]
    exact fun _ hMember => hMember
  milestones := by
    rw [milestones, hSeen]
    rfl
  story := by
    rw [story, signs, owedSigns, hSeen, hAgenda,
      List.reverse_cons, List.filterMap_append]
    simp [story, signs, owedSigns, Observation.sign?]

/- An operation adds to the history what it remarks and owes. -/
theorem acted_of_take
    {task : Task}
    {back : List Task}
    {o : Outcome}
    (hOrderly : t.Orderly)
    (hTask : t.agenda = task :: back)
    (hCall : task.isCall = false)
    (hEffect : Effect t.now t.begun t.client task o)
    (hClient : t'.client = o.client)
    (hBegun : t'.begun = t.begun)
    (hAgenda : t'.agenda = o.owed.map Task.owe ++ back)
    (hSeen :
      t'.seen =
        (o.remarks.map Observation.remark).reverse ++ t.seen) :
    t.Acted task o t' where
  first := ⟨back, hTask⟩
  effect := hEffect
  client := hClient
  begun := hBegun
  owed := by
    intro d hMember
    rw [hAgenda, List.mem_append, List.mem_map] at hMember
    rcases hMember with ⟨other, hNew, hEq⟩ | hOld
    · cases hEq
      exact Or.inl hNew
    · rw [hTask]
      exact Or.inr (List.mem_cons_of_mem _ hOld)
  milestones := by
    rw [milestones, hSeen, List.filterMap_append,
      milestones_take]
    rfl
  story := by
    have hBack := hOrderly.isCall_of_cons hTask
    have hOwed : t.owedSigns = [] := by
      unfold owedSigns
      rw [hTask]
      apply filterMap_sign?
      intro old hMember
      rcases List.mem_cons.mp hMember with rfl | hOld
      · exact hCall
      · exact hBack old hOld
    rw [story, owedSigns, hAgenda, owedSigns_take _ hBack,
      signs, hSeen, List.reverse_append,
      List.filterMap_append, signs_take, story, hOwed,
      List.append_nil, List.append_assoc]
    rfl

/-
  A change leaves the connection and its history as they are,
  or adds the effect of an operation to both.
-/
theorem still_or_acted
    (hOrderly : t.Orderly)
    (hChange : t.Change t') :
    t.Still t' ∨ ∃ task o, t.Acted task o t' := by
  cases hChange with
  | pass hClient hBegun hAgenda hSeen =>
      exact Or.inl (still_of_pass hClient hBegun hAgenda hSeen)
  | begin generation kind url hHeld hClient hBegun hAgenda
      hSeen =>
      exact
        Or.inl
          (still_of_begin hHeld hClient hBegun hAgenda hSeen)
  | aside front back new hFree hUntouched hAgenda hFront hBack
      hSeen hNew =>
      exact
        Or.inl
          (still_of_aside hOrderly hFree hUntouched hAgenda
            hFront hBack hSeen hNew)
  | hand c heard front back hCall hUntouched hAgenda hFront
      hSeen =>
      exact
        Or.inl
          (still_of_hand hOrderly hCall hUntouched hAgenda
            hFront hSeen)
  | take task back o hTask hCall hEffect hClient hBegun hAgenda
      hSeen =>
      exact
        Or.inr
          ⟨task, o,
            acted_of_take hOrderly hTask hCall hEffect hClient
              hBegun hAgenda hSeen⟩

/-
  What stays as it is when nothing happens to the connection,
  and is kept by every operation, holds of every run.
-/
theorem history_induction
    {P : Turn → Prop}
    (hStill : ∀ t t', P t → t.Still t' → P t')
    (hActed : ∀ t t' task o, P t → t.Acted task o t' → P t')
    (hOrderly : t.Orderly)
    (hStart : P t)
    (moves : List Move) :
    P (t.follow moves) := by
  have hBoth :
      (t.follow moves).Orderly ∧ P (t.follow moves) := by
    refine
      follow_induction (P := fun t => t.Orderly ∧ P t) ?_
        ⟨hOrderly, hStart⟩ moves
    intro t m hBefore
    refine ⟨orderly_move hBefore.1 m, ?_⟩
    rcases still_or_acted hBefore.1 (t.change_move m) with
      hSame | ⟨task, o, hDone⟩
    · exact hStill _ _ hBefore.2 hSame
    · exact hActed _ _ task o hBefore.2 hDone
  exact hBoth.2

/- What a history holds it goes on to hold. -/
theorem countP_milestones_le_follow
    (hOrderly : t.Orderly)
    (p : Remark → Bool)
    (moves : List Move) :
    t.milestones.countP p ≤
      (t.follow moves).milestones.countP p := by
  refine
    history_induction
      (P := fun t' =>
        t.milestones.countP p ≤ t'.milestones.countP p)
      ?_ ?_ hOrderly (Nat.le_refl _) moves
  · intro t' t'' hBefore hStill
    rw [hStill.countP_milestones p]
    exact hBefore
  · intro t' t'' task o hBefore hActed
    have hCount := hActed.countP_milestones p
    omega

------------------------------------------------------------
-- Moves Other Than Steps
------------------------------------------------------------

/- An entry that waits has done nothing yet. -/
theorem still_put
    (hOrderly : t.Orderly)
    {task : Task}
    (hDuty : task.isDuty = false) :
    t.Still (t.put task) := by
  unfold put
  split
  · next hFree =>
      have hAgenda : task :: t.agenda = [task] ++ t.agenda := rfl
      have hSeen : t.seen = [] ++ t.seen := rfl
      exact
        still_of_aside hOrderly hFree ⟨rfl, rfl, rfl, rfl⟩
          hAgenda (by simpa using hDuty) (List.suffix_refl _)
          hSeen (by simp)
  · exact still_of_pass rfl rfl rfl rfl

theorem still_beginAttempt (t : Turn) :
    t.Still t.beginAttempt := by
  unfold beginAttempt
  split
  · next generation hHeld =>
      split
      · exact still_of_begin hHeld rfl rfl rfl rfl
      · exact still_of_pass rfl rfl rfl rfl
  · exact still_of_pass rfl rfl rfl rfl

/- Nothing is done but by a step. -/
theorem still_move
    (hOrderly : t.Orderly)
    {m : Move}
    (hStep : m ≠ .step) :
    t.Still (t.move m) := by
  cases m with
  | step => contradiction
  | act a => exact still_put hOrderly rfl
  | timer generation =>
      simp only [move]
      split
      · exact still_put hOrderly rfl
      · exact still_of_pass rfl rfl rfl rfl
  | alarm generation token =>
      simp only [move]
      split
      · exact still_put hOrderly rfl
      · exact still_of_pass rfl rfl rfl rfl
  | wait span => exact still_of_pass rfl rfl rfl rfl
  | begin => exact t.still_beginAttempt
  | drop =>
      simp only [move]
      split <;> exact still_of_pass rfl rfl rfl rfl

end Turn

end EventFeed
