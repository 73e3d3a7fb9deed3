import EventFeed.Text.Hex
import EventFeed.Text.Visible

/-
  This file defines quoted text, as it stands in
  descriptions of values: between double quotes, with every
  character that does not show by itself escaped.

  Key definitions include:
    * `Quoted.escape`
    * `Quoted.encode`
    * `quoted`
-/

------------------------------------------------------------
-- Quoted Text
------------------------------------------------------------

namespace EventFeed

namespace Text

namespace Quoted

/- One character between the quotes. -/
def escape (c : Char) : List Char :=
  if c = '"' then ['\\', '"']
  else if c = '\\' then ['\\', '\\']
  else if c = '\n' then ['\\', 'n']
  else if c = '\r' then ['\\', 'r']
  else if c = '\t' then ['\\', 't']
  else if c = '\x00' then ['\\', '0']
  else if isVisible c then [c]
  else ['\\', 'u', '{'] ++ lowerHex c.toNat ++ ['}']

/- The characters of a text in quotes. -/
def encode (cs : List Char) : List Char :=
  '"' :: (cs.flatMap escape ++ ['"'])

end Quoted

/- A text in quotes. -/
def quoted (s : String) : String :=
  String.ofList (Quoted.encode s.toList)

end Text

end EventFeed
