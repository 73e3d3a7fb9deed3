import EventFeed.Client.Basic

/-
  This file defines a registry at work on its own: handlers
  come and go, and events are dispatched to them.

  A handler may fail on a call.  Its failure is contained: it
  leaves a remark, and all goes on as if it had returned.

  Key definitions include:
    * `Registry.Step`
    * `Registry.Round`
    * `Registry.serve`
    * `Registry.perform`
    * `Registry.performAll`
-/

------------------------------------------------------------
-- Steps of a Registry
------------------------------------------------------------

namespace EventFeed

namespace Registry

/- Something done with a registry. -/
inductive Step (α : Type)
  | register (slot : Slot) (h : α)
  | unregister (slot : Slot)
  | dispatch (e : Event)
deriving Inhabited, Repr

/-
  What a dispatch came to: who was called with what, what was
  remarked, and as what the event was delivered.
-/
structure Round (α : Type) where
  calls : List (α × Callback)
  remarks : List Remark
  delivery : Delivery
deriving Inhabited, Repr

variable {α : Type}

/-
  Let an event reach its handler.  `fails` says which handlers
  fail on which calls.
-/
def serve
    (fails : α → Callback → Bool)
    (r : Registry α)
    (e : Event) : Round α :=
  let calls := (r.dispatch e).toList
  { calls := calls
    remarks :=
      Client.deliveryRemark e ::
        (calls.filter fun call => fails call.1 call.2).map
          fun call => .panicked call.2.slot
    delivery := e.delivery }

/- Do one thing with a registry. -/
def perform
    (fails : α → Callback → Bool)
    (r : Registry α) :
    Step α → Registry α × Option (Round α)
  | .register slot h => (r.register slot h, none)
  | .unregister slot => (r.unregister slot, none)
  | .dispatch e => (r, some (r.serve fails e))

/- Do several things in a row, and keep what dispatches do. -/
def performAll
    (fails : α → Callback → Bool)
    (r : Registry α) :
    List (Step α) → Registry α × List (Round α)
  | [] => (r, [])
  | step :: rest =>
      let one := r.perform fails step
      let more := one.1.performAll fails rest
      (more.1, one.2.toList ++ more.2)

end Registry

end EventFeed
