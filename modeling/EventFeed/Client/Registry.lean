import EventFeed.Client.Callback
import EventFeed.Text.Form

/-
  This file defines the registry of handlers: one place for
  each slot, which is empty or holds the latest handler.

  Key definitions include:
    * `Registry`
    * `Registry.get`
    * `Registry.put`
    * `Registry.register`
    * `Registry.unregister`
    * `Registry.isRegistered`
    * `Registry.dispatch`
-/

------------------------------------------------------------
-- Registry
------------------------------------------------------------

namespace EventFeed

/- The handlers of a client, slot by slot. -/
structure Registry (α : Type) where
  opened : Option α
  message : Option α
  ping : Option α
  error : Option α
  reconnecting : Option α
  reconnected : Option α
  closed : Option α
deriving DecidableEq, Inhabited, Repr

namespace Registry

variable {α : Type}

/- No slot has a handler. -/
def empty : Registry α :=
  ⟨none, none, none, none, none, none, none⟩

/- Every slot has the same handler. -/
def filled (h : α) : Registry α :=
  ⟨some h, some h, some h, some h, some h, some h, some h⟩

/- The handler in a slot. -/
def get (r : Registry α) : Slot → Option α
  | .opened => r.opened
  | .message => r.message
  | .ping => r.ping
  | .error => r.error
  | .reconnecting => r.reconnecting
  | .reconnected => r.reconnected
  | .closed => r.closed

/- Set what a slot holds. -/
def put
    (r : Registry α)
    (s : Slot)
    (h : Option α) : Registry α :=
  match s with
  | .opened => { r with opened := h }
  | .message => { r with message := h }
  | .ping => { r with ping := h }
  | .error => { r with error := h }
  | .reconnecting => { r with reconnecting := h }
  | .reconnected => { r with reconnected := h }
  | .closed => { r with closed := h }

/- Put a handler into a slot in place of any other. -/
def register (r : Registry α) (s : Slot) (h : α) : Registry α :=
  r.put s (some h)

/- Empty a slot. -/
def unregister (r : Registry α) (s : Slot) : Registry α :=
  r.put s none

/- Whether a slot has a handler. -/
def isRegistered (r : Registry α) (s : Slot) : Bool :=
  (r.get s).isSome

/- A slot holds what was put there last. -/
@[simp]
theorem get_put_same
    (r : Registry α)
    (s : Slot)
    (h : Option α) :
    (r.put s h).get s = h := by
  cases s <;> rfl

/- Putting into one slot leaves the others alone. -/
theorem get_put_of_ne
    (r : Registry α)
    {s t : Slot}
    (h : Option α)
    (hne : t ≠ s) :
    (r.put s h).get t = r.get t := by
  cases s <;> cases t <;> first | rfl | exact absurd rfl hne

/-
  The handler that an event reaches, if there is one, and
  the call that it gets.
-/
def dispatch
    (r : Registry α)
    (e : Event) : Option (α × Callback) :=
  (r.get e.callback.slot).map fun h => (h, e.callback)

/- The registry as a described value. -/
def described (r : Registry α) : String :=
  Text.Form.named "EventHandlers"
    (Slot.all.map fun s =>
      (s.name, Text.Form.truth (r.isRegistered s)))

end Registry

end EventFeed
