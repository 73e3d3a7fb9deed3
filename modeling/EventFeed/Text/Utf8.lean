/-
  This file defines UTF-8 as bytes arrive: an encoder, and a
  decoder that keeps the bytes of an unfinished character
  until the next byte settles what they are.

  A byte that cannot continue the carried bytes turns them
  into one replacement character and is then read afresh, so
  each maximal ill-formed part costs one replacement.

  Key definitions include:
    * `Utf8.encode`
    * `Utf8.encodeText`
    * `Utf8.continues`
    * `Utf8.start`
    * `Utf8.push`
    * `Utf8.decode`
    * `Utf8.decodeAll`
    * `Utf8.ofBytes?`
    * `Utf8.strict`
    * `Utf8.fault`
-/

------------------------------------------------------------
-- Encoding
------------------------------------------------------------

namespace EventFeed

namespace Utf8

/- The mark written for bytes that spell no character. -/
def replacement : Char := '\ufffd'

/- The bytes of one character, shortest form. -/
def encode (c : Char) : List UInt8 :=
  let n := c.toNat
  if n < 0x80 then
    [UInt8.ofNat n]
  else if n < 0x800 then
    [UInt8.ofNat (0xc0 + n / 0x40),
      UInt8.ofNat (0x80 + n % 0x40)]
  else if n < 0x10000 then
    [UInt8.ofNat (0xe0 + n / 0x1000),
      UInt8.ofNat (0x80 + n / 0x40 % 0x40),
      UInt8.ofNat (0x80 + n % 0x40)]
  else
    [UInt8.ofNat (0xf0 + n / 0x40000),
      UInt8.ofNat (0x80 + n / 0x1000 % 0x40),
      UInt8.ofNat (0x80 + n / 0x40 % 0x40),
      UInt8.ofNat (0x80 + n % 0x40)]

/- The bytes of a text. -/
def encodeText (cs : List Char) : List UInt8 :=
  cs.flatMap encode

------------------------------------------------------------
-- Well-Formed Prefixes
------------------------------------------------------------

/- How many bytes a character with this lead byte has. -/
def width (lead : UInt8) : Nat :=
  if lead < 0x80 then 1
  else if lead < 0xc2 then 0
  else if lead < 0xe0 then 2
  else if lead < 0xf0 then 3
  else if lead < 0xf5 then 4
  else 0

/-
  The range of the second byte is narrower after four lead
  bytes: it shuts out overlong forms (E0, F0), surrogates
  (ED) and values past the last character (F4).
-/
/- Whether `b` may stand second after `lead`. -/
def secondOk (lead b : UInt8) : Bool :=
  if lead == 0xe0 then 0xa0 ≤ b && b ≤ 0xbf
  else if lead == 0xed then 0x80 ≤ b && b ≤ 0x9f
  else if lead == 0xf0 then 0x90 ≤ b && b ≤ 0xbf
  else if lead == 0xf4 then 0x80 ≤ b && b ≤ 0x8f
  else 0x80 ≤ b && b ≤ 0xbf

/- Whether `b` extends the carried bytes well. -/
def continues
    (carried : List UInt8)
    (b : UInt8) : Bool :=
  match carried with
  | [] => false
  | [lead] => secondOk lead b
  | _ => 0x80 ≤ b && b ≤ 0xbf

/- The value that a complete byte sequence spells. -/
def value : List UInt8 → Nat
  | [a] => a.toNat
  | [a, b] =>
      (a.toNat - 0xc0) * 0x40 + (b.toNat - 0x80)
  | [a, b, c] =>
      (a.toNat - 0xe0) * 0x1000 +
        (b.toNat - 0x80) * 0x40 + (c.toNat - 0x80)
  | [a, b, c, d] =>
      (a.toNat - 0xf0) * 0x40000 +
        (b.toNat - 0x80) * 0x1000 +
        (c.toNat - 0x80) * 0x40 + (d.toNat - 0x80)
  | _ => 0

------------------------------------------------------------
-- Decoding
------------------------------------------------------------

/- Read a byte with nothing carried. -/
def start (b : UInt8) : List Char × List UInt8 :=
  match width b with
  | 0 => ([replacement], [])
  | 1 => ([Char.ofNat b.toNat], [])
  | _ => ([], [b])

/-
  Read one byte: the characters it settles, and the bytes
  carried after it.
-/
def push
    (carried : List UInt8)
    (b : UInt8) : List Char × List UInt8 :=
  match carried with
  | [] => start b
  | lead :: _ =>
      if continues carried b then
        let seen := carried ++ [b]
        if seen.length = width lead then
          ([Char.ofNat (value seen)], [])
        else
          ([], seen)
      else
        let fresh := start b
        (replacement :: fresh.1, fresh.2)

/- Read a chunk of bytes after the carried ones. -/
def decode
    (carried : List UInt8) :
    List UInt8 → List Char × List UInt8
  | [] => ([], carried)
  | b :: rest =>
      let one := push carried b
      let more := decode one.2 rest
      (one.1 ++ more.1, more.2)

/-
  The text of a finished byte sequence; bytes still carried
  at its end are one more ill-formed part.
-/
def decodeAll (bytes : List UInt8) : List Char :=
  let whole := decode [] bytes
  match whole.2 with
  | [] => whole.1
  | _ :: _ => whole.1 ++ [replacement]

/- The text that the bytes spell, if they are well formed. -/
def ofBytes? (bytes : List UInt8) : Option String :=
  let text := decodeAll bytes
  if encodeText text = bytes then
    some (String.ofList text)
  else
    none

------------------------------------------------------------
-- Strict Reading
------------------------------------------------------------

/-
  Read up to the first ill-formed part: the characters before
  it, and the bytes from it on.
-/
def strict
    (carried : List UInt8) :
    List UInt8 → List Char × List UInt8
  | [] => ([], carried)
  | b :: rest =>
      match carried with
      | [] =>
          match width b with
          | 0 => ([], b :: rest)
          | 1 =>
              let more := strict [] rest
              (Char.ofNat b.toNat :: more.1, more.2)
          | _ => strict [b] rest
      | lead :: others =>
          if continues (lead :: others) b then
            let seen := lead :: others ++ [b]
            if seen.length = width lead then
              let more := strict [] rest
              (Char.ofNat (value seen) :: more.1, more.2)
            else
              strict seen rest
          else
            ([], lead :: others ++ b :: rest)

/-
  The length of the ill-formed part that bytes start with, or
  nothing if they are a character that was cut short.
-/
def badLength? (seen : List UInt8) : List UInt8 → Option Nat
  | [] => none
  | b :: rest =>
      match seen with
      | [] =>
          if width b = 0 then some 1 else badLength? [b] rest
      | lead :: others =>
          if continues (lead :: others) b then
            badLength? (lead :: others ++ [b]) rest
          else
            some seen.length

/- What is wrong with the bytes at the start of a text. -/
def fault (bytes : List UInt8) : String :=
  match badLength? [] bytes with
  | some n =>
      "invalid utf-8 sequence of " ++ toString n ++
        " bytes from index 0"
  | none => "incomplete utf-8 byte sequence from index 0"

------------------------------------------------------------
-- Chunks
------------------------------------------------------------

/- A cut between two chunks changes nothing. -/
theorem decode_append
    (carried a b : List UInt8) :
    decode carried (a ++ b) =
      ((decode carried a).1 ++
          (decode (decode carried a).2 b).1,
        (decode (decode carried a).2 b).2) := by
  induction a generalizing carried with
  | nil => simp [decode]
  | cons x rest ih => simp [decode, ih]

end Utf8

end EventFeed
