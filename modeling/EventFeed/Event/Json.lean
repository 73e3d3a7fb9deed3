import EventFeed.Event
import EventFeed.Json.Printer
import EventFeed.Json.Outline

/-
  This file defines the JSON form of an event.

  An event is written as an object with its type, data and
  id.  It is read from an object that names the type and the
  data once each and the id at most once, among any other
  members, or from an array of the three.

  Key definitions include:
    * `Event.json`
    * `Event.jsonText`
    * `Event.ofOutline?`
    * `Event.ofJsonText?`
-/

------------------------------------------------------------
-- Writing
------------------------------------------------------------

namespace EventFeed

namespace Event

/- The event as a JSON object. -/
def json (e : Event) : Json :=
  .object
    [("type", .string e.type),
      ("data", .string e.data),
      ("id",
        match e.id with
        | some id => .string id
        | none => .null)]

/- The event as compact JSON text. -/
def jsonText (e : Event) : String :=
  e.json.compact

------------------------------------------------------------
-- Reading
------------------------------------------------------------

/- A text. -/
def textOf? : Json.Outline → Option String
  | .scalar (.string text) => text
  | _ => none

/- A text, or nothing where `null` stands. -/
def idOf? : Json.Outline → Option (Option String)
  | .scalar .null => some none
  | o => (textOf? o).map some

/- The members of an event that have been met. -/
structure Members where
  type : Option String
  data : Option String
  id : Option (Option String)
deriving DecidableEq, Inhabited, Repr

namespace Members

/- No member met yet. -/
def none : Members :=
  ⟨.none, .none, .none⟩

/-
  Take in a member.  A known name must not have come before;
  any other member is passed over.
-/
def add?
    (met : Members)
    (name : String)
    (value : Json.Outline) : Option Members :=
  if name = "type" then
    if met.type.isSome then .none
    else (textOf? value).map ({ met with type := some · })
  else if name = "data" then
    if met.data.isSome then .none
    else (textOf? value).map ({ met with data := some · })
  else if name = "id" then
    if met.id.isSome then .none
    else (idOf? value).map ({ met with id := some · })
  else
    some met

/- Take in all members of an object. -/
def addAll? (met : Members) :
    List (Option String × Json.Outline) → Option Members
  | [] => some met
  | (name, value) :: rest => do
      let n ← name
      let met' ← met.add? n value
      addAll? met' rest

/- The event, when type and data were met. -/
def event? (met : Members) : Option Event := do
  let type ← met.type
  let data ← met.data
  return ⟨type, data, met.id.join⟩

end Members

/- The event that an outline describes. -/
def ofOutline? : Json.Outline → Option Event
  | .object members =>
      (Members.none.addAll? members).bind Members.event?
  | .array [type, data, id] => do
      let t ← textOf? type
      let d ← textOf? data
      let i ← idOf? id
      return ⟨t, d, i⟩
  | _ => none

/- The event that a JSON text describes. -/
def ofJsonText? (text : String) : Option Event :=
  (Json.Outline.parse? text).bind ofOutline?

end Event

end EventFeed
