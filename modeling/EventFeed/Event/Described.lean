import EventFeed.Event
import EventFeed.Text.Form

/-
  This file defines the description of an event.

  Key definitions include:
    * `Event.described`
-/

------------------------------------------------------------
-- Description
------------------------------------------------------------

namespace EventFeed

namespace Event

/- The event as a described value. -/
def described (e : Event) : String :=
  Text.Form.named "Event"
    [("event_type", Text.quoted e.type),
      ("data", Text.quoted e.data),
      ("id", Text.Form.option (e.id.map Text.quoted))]

end Event

end EventFeed
