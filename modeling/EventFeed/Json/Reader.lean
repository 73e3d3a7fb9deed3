import EventFeed.Json.Outline

/-
  This file defines the JSON value of an outline.

  A value nests no deeper than `maxDepth`, all its strings
  spell a text, and a name met twice keeps its first place
  and its last value.

  Key definitions include:
    * `Json.maxDepth`
    * `Json.numberKey`
    * `Json.ofOutline?`
    * `Json.parse?`
-/

------------------------------------------------------------
-- Limits and Marks
------------------------------------------------------------

namespace EventFeed

namespace Json

/- The deepest nesting of containers that is read. -/
def maxDepth : Nat :=
  127

/-
  The name that marks an object as a number.  An object that
  starts with it must hold nothing else, and its value must
  be a string that spells a number.
-/
def numberKey : String :=
  "$serde_json::private::Number"

------------------------------------------------------------
-- Values of Outlines
------------------------------------------------------------

/- The value of a scalar. -/
def ofScalar? : Scalar → Option Json
  | .null => some null
  | .bool b => some (bool b)
  | .number n => some (number n)
  | .string text => text.map string

/- The number that a marked object stands for. -/
def markedNumber? : Outline → Option Json
  | .scalar (.string (some text)) =>
      (Number.ofChars? text.toList).map number
  | _ => none

mutual

/- The value of an outline that may nest `room` deep. -/
def ofOutline? (room : Nat) : Outline → Option Json
  | .scalar s => ofScalar? s
  | .array items =>
      match room with
      | 0 => none
      | r + 1 => (itemsOf? r items).map array
  | .object [] =>
      match room with
      | 0 => none
      | _ + 1 => some (object [])
  | .object ((n, v) :: rest) =>
      match room with
      | 0 => none
      | r + 1 =>
          if n = some numberKey then
            if rest.isEmpty then markedNumber? v else none
          else do
            let name ← n
            let first ← ofOutline? r v
            let members ← membersOf? r [(name, first)] rest
            return object members

/- The values of the items of an array. -/
def itemsOf? (room : Nat) :
    List Outline → Option (List Json)
  | [] => some []
  | v :: rest => do
      let first ← ofOutline? room v
      let others ← itemsOf? room rest
      return first :: others

/- The members of an object, after those already read. -/
def membersOf? (room : Nat)
    (read : List (String × Json)) :
    List (Option String × Outline) →
      Option (List (String × Json))
  | [] => some read
  | (n, v) :: rest => do
      let name ← n
      let value ← ofOutline? room v
      membersOf? room (insertMember name value read) rest

end

/- The value of a JSON text. -/
def parse? (text : String) : Option Json :=
  (Outline.parse? text).bind (ofOutline? maxDepth)

end Json

end EventFeed
