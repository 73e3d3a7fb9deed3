import EventFeed.Text.Quoted

/-
  This file defines the form in which a value is described:
  a name alone, a name with values in round brackets, or a
  name with named parts in braces.

  Key definitions include:
    * `Form.tuple`
    * `Form.named`
    * `Form.option`
    * `Form.truth`
-/

------------------------------------------------------------
-- Described Values
------------------------------------------------------------

namespace EventFeed

namespace Text

namespace Form

/- A name and the values it wraps. -/
def tuple (name : String) (parts : List String) : String :=
  name ++ "(" ++ ", ".intercalate parts ++ ")"

/- A name and its named parts. -/
def named
    (name : String)
    (parts : List (String × String)) : String :=
  name ++ " \x7b " ++
    ", ".intercalate (parts.map fun p => p.1 ++ ": " ++ p.2) ++
    " \x7d"

/- A value that may be missing. -/
def option (part : Option String) : String :=
  match part with
  | some text => tuple "Some" [text]
  | none => "None"

/- A truth value. -/
def truth (b : Bool) : String :=
  if b then "true" else "false"

end Form

end Text

end EventFeed
