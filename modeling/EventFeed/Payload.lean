import EventFeed.Json.Printer
import EventFeed.Json.Reader

/-
  This file defines what a message carries: a JSON object or
  array, or else the text as it came.

  Key definitions include:
    * `Payload`
    * `Payload.decode`
    * `Payload.isStructured`
-/

------------------------------------------------------------
-- Payloads
------------------------------------------------------------

namespace EventFeed

/- The decoded data of an event. -/
inductive Payload
  | structured (value : Json)
  | raw (text : String)
deriving Inhabited, Repr

namespace Payload

/-
  Decode the data of an event.  Data that is no JSON object
  or array stays as it is, which is not an error.
-/
def decode (data : String) : Payload :=
  match Json.parse? data with
  | some v => if v.isContainer then structured v else raw data
  | none => raw data

/- Whether the data was an object or an array. -/
def isStructured : Payload → Bool
  | structured _ => true
  | raw _ => false

end Payload

end EventFeed
