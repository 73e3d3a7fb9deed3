import EventFeed.Text.Hex

/-
  This file defines web addresses and their text.

  Key definitions include:
    * `Url.Host`
    * `Url.Host.text`
    * `Url`
    * `Url.text`
    * `Url.withoutFragment`
    * `Url.requested`
-/

------------------------------------------------------------
-- Hosts
------------------------------------------------------------

namespace EventFeed

namespace Url

/-
  The machine an address names: by a name, by four bytes or
  by eight pieces of sixteen bits.
-/
inductive Host
  | name (text : String)
  | v4 (address : UInt32)
  | v6 (pieces : List UInt16)
deriving DecidableEq, Inhabited, Repr

namespace Host

/- Four bytes in decimal, with dots between them. -/
def v4Text (address : UInt32) : String :=
  let n := address.toNat
  toString (n / 0x1000000) ++ "." ++
    toString (n / 0x10000 % 0x100) ++ "." ++
    toString (n / 0x100 % 0x100) ++ "." ++
    toString (n % 0x100)

/- A run of zero pieces: where it starts and its length. -/
structure ZeroRun where
  start : Nat
  length : Nat
deriving DecidableEq, Inhabited, Repr

/-
  The first longest run of zero pieces, where `here` is the
  run that ends just before `index`.
-/
def longestZeros
    (index : Nat)
    (here best : ZeroRun) :
    List UInt16 → ZeroRun
  | [] => best
  | p :: rest =>
      if p = 0 then
        let here' : ZeroRun :=
          if here.length = 0 then ⟨index, 1⟩
          else { here with length := here.length + 1 }
        let best' :=
          if best.length < here'.length then here' else best
        longestZeros (index + 1) here' best' rest
      else
        longestZeros (index + 1) ⟨0, 0⟩ best rest

/- Pieces in hexadecimal, with colons between them. -/
def piecesText (pieces : List UInt16) : String :=
  ":".intercalate
    (pieces.map fun p =>
      String.ofList (Text.lowerHex p.toNat))

/-
  Eight pieces; the first longest run of at least two zeros
  is left out.
-/
def v6Text (pieces : List UInt16) : String :=
  let run := longestZeros 0 ⟨0, 0⟩ ⟨0, 0⟩ pieces
  if run.length < 2 then
    piecesText pieces
  else
    piecesText (pieces.take run.start) ++ "::" ++
      piecesText (pieces.drop (run.start + run.length))

/- The host as it stands in an address. -/
def text : Host → String
  | name s => s
  | v4 address => v4Text address
  | v6 pieces => "[" ++ v6Text pieces ++ "]"

end Host

end Url

------------------------------------------------------------
-- Addresses
------------------------------------------------------------

/-
  An address on the web, in its parts, each already in its
  normal form.  A port is kept only if it is not the one that
  the scheme stands for; the path has at least one segment.
-/
structure Url where
  secure : Bool
  username : String
  password : String
  host : Url.Host
  port : Option UInt16
  path : List String
  query : Option String
  fragment : Option String
deriving DecidableEq, Inhabited, Repr

namespace Url

/- The scheme of the address. -/
def scheme (u : Url) : String :=
  if u.secure then "https" else "http"

/- The port that a scheme stands for. -/
def defaultPort (secure : Bool) : UInt16 :=
  if secure then 443 else 80

/- User name and password, if the address has any. -/
def userText (u : Url) : String :=
  if u.username = "" ∧ u.password = "" then
    ""
  else if u.password = "" then
    u.username ++ "@"
  else
    u.username ++ ":" ++ u.password ++ "@"

/- The port, if it has to be named. -/
def portText (u : Url) : String :=
  match u.port with
  | some p => ":" ++ toString p.toNat
  | none => ""

/- Path and query, as a request names its target. -/
def target (u : Url) : String :=
  String.join (u.path.map ("/" ++ ·)) ++
    (match u.query with
      | some q => "?" ++ q
      | none => "")

/- The address without its fragment. -/
def withoutFragment (u : Url) : String :=
  u.scheme ++ "://" ++ u.userText ++ u.host.text ++
    u.portText ++ u.target

/-
  The address as a request names it: without its fragment,
  and without the user, who is named in a header.
-/
def requested (u : Url) : String :=
  { u with username := "", password := "" }.withoutFragment

/- The whole address. -/
def text (u : Url) : String :=
  u.withoutFragment ++
    (match u.fragment with
      | some f => "#" ++ f
      | none => "")

end Url

end EventFeed
