import EventFeed.Client.Dispatch

/-
  This file proves that an event reaches the handler that was
  registered last, and nobody else.

  Against a registry of seven places stands the history of
  what was written to one of them.  Whatever was done before,
  a slot holds what was written to it last, so a dispatch
  calls just that handler, in the slot that the type of the
  event chooses.  As what an event is delivered depends on
  the event alone.

  Key definitions include:
    * `Registry.Step.written?`
    * `Registry.latest`

  Key results include:
    * `Registry.get_performAll`
    * `Registry.dispatched_to_latest`
-/

------------------------------------------------------------
-- History of a Slot
------------------------------------------------------------

namespace EventFeed

namespace Registry

variable {α : Type}

/-
  What a step writes to a slot, if it does: a handler, or
  nothing in place of one.
-/
def Step.written? (slot : Slot) : Step α → Option (Option α)
  | .register s h => if s = slot then some (some h) else none
  | .unregister s => if s = slot then some none else none
  | .dispatch _ => none

/- All that steps wrote to a slot, in order. -/
def history
    (slot : Slot)
    (steps : List (Step α)) : List (Option α) :=
  steps.filterMap (Step.written? slot)

/-
  The handler that was registered last in a slot and has not
  been unregistered since.
-/
def latest
    (slot : Slot)
    (steps : List (Step α)) : Option α :=
  (history slot steps).getLast?.join

/- A slot that is not written to keeps what it holds. -/
theorem get_perform
    (fails : α → Callback → Bool)
    (r : Registry α)
    (step : Step α)
    (slot : Slot) :
    (r.perform fails step).1.get slot =
      (step.written? slot).getD (r.get slot) := by
  cases step with
  | register s h =>
      by_cases hSlot : s = slot
      · subst hSlot
        simp [perform, register, Step.written?]
      · have hOther := r.get_put_of_ne (some h) (Ne.symm hSlot)
        simp [perform, register, Step.written?, hSlot, hOther]
  | unregister s =>
      by_cases hSlot : s = slot
      · subst hSlot
        simp [perform, unregister, Step.written?]
      · have hOther := r.get_put_of_ne none (Ne.symm hSlot)
        simp [perform, unregister, Step.written?, hSlot, hOther]
  | dispatch e => rfl

/- After any steps a slot holds what was written last. -/
theorem get_performAll
    (fails : α → Callback → Bool)
    (r : Registry α)
    (steps : List (Step α))
    (slot : Slot) :
    (r.performAll fails steps).1.get slot =
      (history slot steps).getLast?.getD (r.get slot) := by
  induction steps generalizing r with
  | nil => rfl
  | cons step rest ih =>
      have hFirst := r.get_perform fails step slot
      unfold performAll
      rw [ih, hFirst]
      unfold history
      cases hWritten : step.written? slot with
      | none =>
          rw [List.filterMap_cons_none hWritten]
          rfl
      | some h =>
          rw [List.filterMap_cons_some hWritten,
            List.getLast?_cons]
          rfl

/- A registry that starts empty holds what its history says. -/
theorem get_performAll_empty
    (fails : α → Callback → Bool)
    (steps : List (Step α))
    (slot : Slot) :
    ((empty : Registry α).performAll fails steps).1.get slot =
      latest slot steps := by
  have hEmpty : (empty : Registry α).get slot = none := by
    cases slot <;> rfl
  rw [get_performAll, hEmpty, latest]
  cases (history slot steps).getLast? <;> rfl

/- What is done later adds to what was done before. -/
theorem performAll_append
    (fails : α → Callback → Bool)
    (r : Registry α)
    (before after : List (Step α)) :
    r.performAll fails (before ++ after) =
      let first := r.performAll fails before
      let second := first.1.performAll fails after
      (second.1, first.2 ++ second.2) := by
  induction before generalizing r with
  | nil => rfl
  | cons step before ih =>
      rw [List.cons_append, performAll, ih]
      simp [performAll]

------------------------------------------------------------
-- Dispatch
------------------------------------------------------------

/- The calls of a dispatch, by what the slots hold. -/
theorem calls_serve
    (fails : α → Callback → Bool)
    (r : Registry α)
    (e : Event) :
    (r.serve fails e).calls =
      if e.type = "ping" then
        (r.get .ping).toList.map fun h => (h, .ping e.data)
      else
        (r.get .message).toList.map fun h =>
          (h, .message (Payload.decode e.data) e) := by
  have hPing : e.isPing = decide (e.type = "ping") := rfl
  unfold serve Registry.dispatch Event.callback
  rw [hPing]
  by_cases hType : e.type = "ping"
  · simp only [hType, decide_true, if_true, Callback.slot]
    cases r.get .ping <;> rfl
  · simp only [hType, decide_false, Bool.false_eq_true,
      if_false, Callback.slot]
    cases r.get .message <;> rfl

/-
  After any steps with a registry, an event of the type ping
  calls the handler registered last for pings with its data,
  any other event the one registered last for messages with
  its payload and itself, and nobody else is called, whoever
  fails.  As what the event is delivered depends on the event
  alone.  And a slot has a handler just if the last step that
  wrote to it registered one.
-/
theorem dispatched_to_latest
    (fails : α → Callback → Bool)
    (before : List (Step α)) :
    (∀ (e : Event) (after : List (Step α)),
        ∃ round : Round α,
          ((empty : Registry α).performAll fails
                (before ++ .dispatch e :: after)).2 =
              ((empty : Registry α).performAll fails before).2 ++
                round ::
                  (((empty : Registry α).performAll fails
                    before).1.performAll fails after).2 ∧
            (round.calls =
              if e.type = "ping" then
                (latest .ping before).toList.map fun h =>
                  (h, .ping e.data)
              else
                (latest .message before).toList.map fun h =>
                  (h, .message (Payload.decode e.data) e)) ∧
            round.delivery =
              if e.type = "ping" then
                .ping
              else
                .message (Payload.decode e.data).isStructured) ∧
      ∀ slot,
        ((empty : Registry α).performAll fails
            before).1.isRegistered slot = true ↔
          ∃ h, (history slot before).getLast? =
            some (some h) := by
  refine ⟨?_, ?_⟩
  · intro e after
    refine
      ⟨((empty : Registry α).performAll fails before).1.serve
        fails e, ?_, ?_, ?_⟩
    · rw [performAll_append]
      rfl
    · rw [calls_serve, get_performAll_empty,
        get_performAll_empty]
    · show e.delivery = _
      unfold Event.delivery Event.isPing
      by_cases hType : e.type = "ping"
      · simp [hType, Event.pingType]
      · simp [hType, Event.pingType]
  · intro slot
    rw [isRegistered, get_performAll_empty, latest]
    cases hLast : (history slot before).getLast? with
    | none => simp
    | some written => cases written <;> simp

end Registry

end EventFeed
