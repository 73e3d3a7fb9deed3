/-
  This file defines the events of a feed.

  Key definitions include:
    * `Event`
    * `Event.messageType`
    * `Event.pingType`
    * `Event.message`
    * `Event.ping`
    * `Event.withId`
    * `Event.isPing`
-/

------------------------------------------------------------
-- Events
------------------------------------------------------------

namespace EventFeed

/-
  One complete event pushed by a server: its type, its data
  (lines joined by line feeds) and the id it carried.
-/
structure Event where
  type : String
  data : String
  id : Option String
deriving DecidableEq, Inhabited, Repr

namespace Event

/- The type of an event that names none. -/
def messageType : String :=
  "message"

/- The type of a sign of life. -/
def pingType : String :=
  "ping"

/- An event without an id. -/
def ofType (type data : String) : Event :=
  ⟨type, data, none⟩

/- An event of the default type. -/
def message (data : String) : Event :=
  ofType messageType data

/- A sign of life. -/
def ping (data : String) : Event :=
  ofType pingType data

/- The same event with the given id. -/
def withId (e : Event) (id : String) : Event :=
  { e with id := some id }

/- Whether the event is a sign of life. -/
def isPing (e : Event) : Bool :=
  e.type == pingType

end Event

end EventFeed
