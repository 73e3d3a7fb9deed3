import EventFeed.Text.Hex
import EventFeed.Text.Utf8

/-
  This file defines the percent form of characters, and which
  characters each part of an address writes in it.

  Key definitions include:
    * `Percent.encode`
    * `Percent.decode`
    * `Percent.inFragment`
    * `Percent.inQuery`
    * `Percent.inPath`
    * `Percent.inUser`
-/

------------------------------------------------------------
-- Encoding
------------------------------------------------------------

namespace EventFeed

namespace Percent

/- A byte in percent form. -/
def byteForm (b : UInt8) : List Char :=
  ['%', Text.upperHexDigit (b.toNat / 16),
    Text.upperHexDigit (b.toNat % 16)]

/- Put the bytes of some characters into percent form. -/
def encode
    (special : Char → Bool)
    (cs : List Char) : List Char :=
  cs.flatMap fun c =>
    if special c then
      (Utf8.encode c).flatMap byteForm
    else
      [c]

/- The bytes of a text, percent forms taken as bytes. -/
def decode : List Char → List UInt8
  | '%' :: a :: b :: rest =>
      match Text.hexDigit? a, Text.hexDigit? b with
      | some h, some l => UInt8.ofNat (h * 16 + l) :: decode rest
      | _, _ => 0x25 :: decode (a :: b :: rest)
  | c :: rest => Utf8.encode c ++ decode rest
  | [] => []

------------------------------------------------------------
-- Special Characters
------------------------------------------------------------

/- Controls and all that is not ASCII. -/
def isControl (c : Char) : Bool :=
  c < ' ' || '\x7f' ≤ c

/- What a fragment writes in percent form. -/
def inFragment (c : Char) : Bool :=
  isControl c || [' ', '"', '<', '>', '`'].contains c

/- What a query writes in percent form. -/
def inQuery (c : Char) : Bool :=
  isControl c || [' ', '"', '#', '<', '>', '\''].contains c

/- What a path writes in percent form. -/
def inPath (c : Char) : Bool :=
  inFragment c || ['#', '?', '{', '}'].contains c

/- What user names and passwords write in percent form. -/
def inUser (c : Char) : Bool :=
  inPath c ||
    ['/', ':', ';', '=', '@', '[', '\\', ']', '^', '|'].contains
      c

end Percent

end EventFeed
