/-
  This file defines digits and their values.

  Key definitions include:
    * `digit?`
    * `hexDigit?`
    * `lowerHex`
    * `upperHex`
    * `ofDigits`
    * `ofDecimal?`
-/

------------------------------------------------------------
-- Digits
------------------------------------------------------------

namespace EventFeed

namespace Text

/- The value of a decimal digit. -/
def digit? (c : Char) : Option Nat :=
  if '0' ≤ c ∧ c ≤ '9' then
    some (c.toNat - '0'.toNat)
  else
    none

/- The value of a hexadecimal digit of either case. -/
def hexDigit? (c : Char) : Option Nat :=
  if '0' ≤ c ∧ c ≤ '9' then
    some (c.toNat - '0'.toNat)
  else if 'a' ≤ c ∧ c ≤ 'f' then
    some (c.toNat - 'a'.toNat + 10)
  else if 'A' ≤ c ∧ c ≤ 'F' then
    some (c.toNat - 'A'.toNat + 10)
  else
    none

/- The lower-case hexadecimal digit of a value below 16. -/
def lowerHexDigit (n : Nat) : Char :=
  if n < 10 then
    Char.ofNat ('0'.toNat + n)
  else
    Char.ofNat ('a'.toNat + (n - 10))

/- The upper-case hexadecimal digit of a value below 16. -/
def upperHexDigit (n : Nat) : Char :=
  if n < 10 then
    Char.ofNat ('0'.toNat + n)
  else
    Char.ofNat ('A'.toNat + (n - 10))

/- A number in lower-case hexadecimal, without padding. -/
def lowerHex (n : Nat) : List Char :=
  if n < 16 then
    [lowerHexDigit n]
  else
    lowerHex (n / 16) ++ [lowerHexDigit (n % 16)]

------------------------------------------------------------
-- Values
------------------------------------------------------------

/- The number that digits of a base spell, leading first. -/
def ofDigits (base : Nat) (digits : List Nat) : Nat :=
  digits.foldl (fun n d => n * base + d) 0

/- The number in decimal, if there is a digit and no other. -/
def ofDecimal? (cs : List Char) : Option Nat :=
  match cs with
  | [] => none
  | _ => (cs.mapM digit?).map (ofDigits 10)

/- A number in decimal. -/
def decimal (n : Nat) : List Char :=
  Nat.toDigits 10 n

end Text

end EventFeed
