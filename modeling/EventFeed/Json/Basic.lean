/-
  This file defines JSON values.

  A number keeps its digits as they were written, so no
  value is rounded.  An object keeps its members in the
  order in which their names first came.

  Key definitions include:
    * `Json.Exponent`
    * `Json.Number`
    * `Json`
    * `Json.insertMember`
    * `Json.isContainer`
-/

------------------------------------------------------------
-- Numbers
------------------------------------------------------------

namespace EventFeed

namespace Json

/- A power of ten: its sign and its digits. -/
structure Exponent where
  negative : Bool
  digits : List Char
deriving DecidableEq, Inhabited, Repr

/-
  A number by its digits: sign, whole part, fraction and
  power of ten, as far as they were written.
-/
structure Number where
  negative : Bool
  whole : List Char
  fraction : Option (List Char)
  exponent : Option Exponent
deriving DecidableEq, Inhabited, Repr

end Json

------------------------------------------------------------
-- Values
------------------------------------------------------------

/- A JSON value. -/
inductive Json
  | null
  | bool (b : Bool)
  | number (n : Json.Number)
  | string (s : String)
  | array (items : List Json)
  | object (members : List (String × Json))
deriving Inhabited, Repr

namespace Json

/-
  Set a member: a name met before keeps its place and takes
  the new value, a new name comes last.
-/
def insertMember
    (name : String)
    (value : Json) :
    List (String × Json) → List (String × Json)
  | [] => [(name, value)]
  | (n, v) :: rest =>
      if n = name then
        (n, value) :: rest
      else
        (n, v) :: insertMember name value rest

/- Whether the value is an object or an array. -/
def isContainer : Json → Bool
  | array _ => true
  | object _ => true
  | _ => false

end Json

end EventFeed
