import EventFeed.Json.Basic
import EventFeed.Text.Hex

/-
  This file defines the compact text of JSON values: no
  blanks, digits as they are kept, and only the escapes that
  a string cannot do without.

  Key definitions include:
    * `Json.Number.chars`
    * `Json.escape`
    * `Json.quote`
    * `Json.chars`
    * `Json.compact`
-/

------------------------------------------------------------
-- Numbers
------------------------------------------------------------

namespace EventFeed

namespace Json

/- A power of ten is written with a small e and its sign. -/
def Exponent.chars (e : Exponent) : List Char :=
  'e' :: (if e.negative then '-' else '+') :: e.digits

/- The digits of a number. -/
def Number.chars (n : Number) : List Char :=
  (if n.negative then ['-'] else []) ++ n.whole ++
    (match n.fraction with
      | some f => '.' :: f
      | none => []) ++
    (match n.exponent with
      | some e => e.chars
      | none => [])

------------------------------------------------------------
-- Strings
------------------------------------------------------------

/- One character inside a string. -/
def escape (c : Char) : List Char :=
  if c = '"' then ['\\', '"']
  else if c = '\\' then ['\\', '\\']
  else if c = '\x08' then ['\\', 'b']
  else if c = '\t' then ['\\', 't']
  else if c = '\n' then ['\\', 'n']
  else if c = '\x0c' then ['\\', 'f']
  else if c = '\r' then ['\\', 'r']
  else if c < ' ' then
    ['\\', 'u', '0', '0',
      Text.lowerHexDigit (c.toNat / 16),
      Text.lowerHexDigit (c.toNat % 16)]
  else [c]

/- A string in quotes. -/
def quote (s : String) : List Char :=
  '"' :: (s.toList.flatMap escape ++ ['"'])

------------------------------------------------------------
-- Values
------------------------------------------------------------

mutual

/- The compact text of a value. -/
def chars : Json → List Char
  | .null => "null".toList
  | .bool true => "true".toList
  | .bool false => "false".toList
  | .number n => n.chars
  | .string s => quote s
  | .array [] => ['[', ']']
  | .array (v :: rest) =>
      '[' :: (chars v ++ itemsTail rest)
  | .object [] => ['{', '}']
  | .object ((n, v) :: rest) =>
      '{' :: (quote n ++ ':' :: (chars v ++ membersTail rest))

/- The items after the first, with the closing bracket. -/
def itemsTail : List Json → List Char
  | [] => [']']
  | v :: rest => ',' :: (chars v ++ itemsTail rest)

/- The members after the first, with the closing brace. -/
def membersTail : List (String × Json) → List Char
  | [] => ['}']
  | (n, v) :: rest =>
      ',' :: (quote n ++ ':' :: (chars v ++ membersTail rest))

end

/- The compact text of a value, as a string. -/
def compact (v : Json) : String :=
  String.ofList (chars v)

end Json

end EventFeed
