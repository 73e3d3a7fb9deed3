import EventFeed.Text.Hex
import EventFeed.Text.Utf8
import EventFeed.Url.Basic
import EventFeed.Url.Domain
import EventFeed.Url.Error
import EventFeed.Url.Percent

/-
  This file defines the reading of hosts: names, addresses of
  four bytes and addresses of eight pieces.

  Key definitions include:
    * `Url.V4.number`
    * `Url.V4.parse`
    * `Url.V6.parse?`
    * `Url.Host.parse`
    * `Url.Host.checkOpaque`
-/

------------------------------------------------------------
-- Four Bytes
------------------------------------------------------------

namespace EventFeed

namespace Url

namespace V4

/- A part of an address of four bytes. -/
inductive Part
  /- no number -/
  | none
  /- a number that is too large -/
  | large
  /- a number -/
  | value (n : Nat)
deriving DecidableEq, Inhabited, Repr

/- Read the digits of a base; without any they mean zero. -/
def ofBase (base : Nat) (cs : List Char) : Part :=
  match cs.mapM Text.hexDigit? with
  | some ds =>
      if ds.all (· < base) then
        let n := Text.ofDigits base ds
        if n < UInt32.size then .value n else .large
      else
        .none
  | none => .none

/- Read a number in decimal, octal or hexadecimal. -/
def number : List Char → Part
  | [] => .none
  | '0' :: 'x' :: rest => ofBase 16 rest
  | '0' :: 'X' :: rest => ofBase 16 rest
  | '0' :: c :: rest => ofBase 8 (c :: rest)
  | cs => ofBase 10 cs

/- The parts of a name; one empty part at its end is dropped. -/
def parts (name : List Char) : List (List Char) :=
  let all := Domain.splitOn '.' name
  if all.getLast? = some [] then all.dropLast else all

/- Whether a name has to be read as four bytes. -/
def endsInNumber (name : List Char) : Bool :=
  match (parts name).getLast? with
  | some last =>
      (last ≠ [] && last.all fun c => '0' ≤ c && c ≤ '9') ||
        number last != .none
  | none => false

/- The value of a part, if it has one. -/
def Part.value? : Part → Option Nat
  | .value n => some n
  | _ => Option.none

/-
  The address that parts stand for: each but the last is a
  byte, and the last fills the bytes that are left.
-/
def combine? (ns : List Nat) : Option Nat :=
  match ns.getLast? with
  | none => none
  | some last =>
      let bytes := ns.dropLast
      let room := Nat.pow 256 (4 - bytes.length)
      if 4 < ns.length ∨ room ≤ last ∨
          bytes.any (255 < ·) then
        none
      else
        some
          (bytes.foldl (fun n b => n * 256 + b) 0 * room + last)

/- Read an address of four bytes. -/
def parse (name : List Char) : Except Error UInt32 :=
  match ((parts name).mapM fun p => (number p).value?).bind
      combine? with
  | some n => .ok (UInt32.ofNat n)
  | none => .error .badV4

end V4

------------------------------------------------------------
-- Eight Pieces
------------------------------------------------------------

namespace V6

/- Cut a list after its leading hexadecimal digits, at most four. -/
def piece (cs : List Char) : Nat × List Char :=
  let ds := (cs.take 4).takeWhile fun c =>
    (Text.hexDigit? c).isSome
  (Text.ofDigits 16 (ds.filterMap Text.hexDigit?),
    cs.drop ds.length)

/- Read a byte in decimal, without a needless zero. -/
def byte? (cs : List Char) : Option Nat :=
  match cs with
  | '0' :: _ :: _ => none
  | _ => (Text.ofDecimal? cs).filter (· < 256)

/- Read four bytes as two pieces. -/
def tail? (cs : List Char) : Option (List Nat) :=
  match (Domain.splitOn '.' cs).mapM byte? with
  | some [a, b, c, d] => some [a * 256 + b, c * 256 + d]
  | _ => none

/- What has been read: the pieces, and where a gap is. -/
structure Pieces where
  done : List Nat
  gap : Option Nat
deriving DecidableEq, Inhabited, Repr

/-
  Read pieces until the end, where the last two may be
  written as four bytes.  `fuel` bounds how many.
-/
def read? : Nat → Pieces → List Char → Option Pieces
  | _, p, [] => some p
  | 0, _, _ :: _ => none
  | fuel + 1, p, c :: rest =>
      if c = ':' then
        if p.gap.isSome then none
        else read? fuel { p with gap := some p.done.length } rest
      else
        let cut := piece (c :: rest)
        match cut.2 with
        | '.' :: _ =>
            if cut.2.length = rest.length + 1 then
              none
            else
              (tail? (c :: rest)).map fun two =>
                { p with done := p.done ++ two }
        | ':' :: [] => none
        | ':' :: more =>
            read? fuel { p with done := p.done ++ [cut.1] } more
        | [] => some { p with done := p.done ++ [cut.1] }
        | _ :: _ => none

/- Fill the gap with zeros. -/
def fill? (p : Pieces) : Option (List Nat) :=
  match p.gap with
  | some i =>
      if p.done.length ≤ 7 then
        some
          (p.done.take i ++
            List.replicate (8 - p.done.length) 0 ++
            p.done.drop i)
      else
        none
  | none => if p.done.length = 8 then some p.done else none

/- Read an address of eight pieces. -/
def parse? (cs : List Char) : Option (List UInt16) :=
  let start : Option (Pieces × List Char) :=
    match cs with
    | ':' :: ':' :: rest => some (⟨[], some 0⟩, rest)
    | ':' :: _ => none
    | [] => none
    | _ => some (⟨[], none⟩, cs)
  (start.bind fun s => (read? (s.2.length) s.1 s.2).bind fill?).map
    fun ns => ns.map UInt16.ofNat

end V6

------------------------------------------------------------
-- Hosts
------------------------------------------------------------

namespace Host

/- Whether a host is written in square brackets. -/
def bracketed (cs : List Char) : Bool :=
  cs.head? == some '['

/- Read what stands in square brackets. -/
def parseBrackets (cs : List Char) : Except Error Host :=
  if cs.getLast? = some ']' then
    match V6.parse? (cs.drop 1).dropLast with
    | some pieces => .ok (.v6 pieces)
    | none => .error .badV6
  else
    .error .badV6

/- Read the host of an address on the web. -/
def parse (cs : List Char) : Except Error Host :=
  if bracketed cs then
    parseBrackets cs
  else
    match Utf8.ofBytes? (Percent.decode cs) with
    | none => .error .badName
    | some decoded =>
        match Domain.toAscii? decoded.toList with
        | none => .error .badName
        | some [] => .error .emptyHost
        | some ascii =>
            if V4.endsInNumber ascii then
              (V4.parse ascii).map .v4
            else
              .ok (.name (String.ofList ascii))

/- What a host of another scheme must not hold. -/
def spoilsOpaque (c : Char) : Bool :=
  ['\x00', '\t', '\n', '\r', ' ', '#', '/', ':', '<', '>', '?',
    '@', '[', '\\', ']', '^', '|'].contains c

/- Check the host of an address of another scheme. -/
def checkOpaque (cs : List Char) : Except Error Unit :=
  if bracketed cs then
    (parseBrackets cs).map fun _ => ()
  else if cs.any spoilsOpaque then
    .error .badCharacter
  else
    .ok ()

end Host

end Url

end EventFeed
