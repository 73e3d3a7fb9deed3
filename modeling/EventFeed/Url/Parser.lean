import EventFeed.Url.Host

/-
  This file defines the reading of addresses.

  Only addresses on the web are taken apart completely.  An
  address of another scheme is checked and known by its
  scheme alone.

  Key definitions include:
    * `Url.clean`
    * `Url.cutScheme?`
    * `Url.Authority`
    * `Url.segments`
    * `Url.Target`
    * `Url.parse`
-/

------------------------------------------------------------
-- Input
------------------------------------------------------------

namespace EventFeed

namespace Url

/- Controls and spaces, which do not count at the ends. -/
def isEdge (c : Char) : Bool :=
  c ≤ ' '

/- Tabs and line ends, which do not count anywhere. -/
def isBreak (c : Char) : Bool :=
  c == '\t' || c == '\n' || c == '\r'

/- The characters of an address that count. -/
def clean (cs : List Char) : List Char :=
  let front := cs.dropWhile isEdge
  let both := (front.reverse.dropWhile isEdge).reverse
  both.filter fun c => !isBreak c

/- Whether the character is an ASCII letter. -/
def isLetter (c : Char) : Bool :=
  ('a' ≤ c && c ≤ 'z') || ('A' ≤ c && c ≤ 'Z')

/- Whether the character may stand in a scheme. -/
def isSchemeChar (c : Char) : Bool :=
  isLetter c || ('0' ≤ c && c ≤ '9') || c == '+' ||
    c == '-' || c == '.'

/- The scheme in lower case, and what follows its colon. -/
def cutScheme? (cs : List Char) :
    Option (String × List Char) :=
  match cs with
  | c :: _ =>
      if isLetter c then
        match cs.dropWhile isSchemeChar with
        | ':' :: rest =>
            some
              (String.ofList
                ((cs.takeWhile isSchemeChar).map Char.toLower),
                rest)
        | _ => none
      else
        none
  | [] => none

/- The kinds of scheme. -/
inductive SchemeKind
  | web (secure : Bool)
  | webLike
  | file
  | other
deriving DecidableEq, Inhabited, Repr

/- The kind of a scheme. -/
def SchemeKind.ofScheme (scheme : String) : SchemeKind :=
  if scheme = "http" then .web false
  else if scheme = "https" then .web true
  else if ["ws", "wss", "ftp"].contains scheme then .webLike
  else if scheme = "file" then .file
  else .other

------------------------------------------------------------
-- Authority
------------------------------------------------------------

/- Whether a character ends the authority of an address. -/
def endsAuthority (backslash : Bool) (c : Char) : Bool :=
  c == '/' || c == '?' || c == '#' ||
    (backslash && c == '\\')

/- User name and password, if the authority has any. -/
structure User where
  name : List Char
  password : List Char
deriving DecidableEq, Inhabited, Repr

/- Cut a text at its last at-sign. -/
def cutLastAt? (cs : List Char) :
    Option (List Char × List Char) :=
  if cs.contains '@' then
    let tail := (cs.reverse.takeWhile (· != '@')).reverse
    some (cs.take (cs.length - tail.length - 1), tail)
  else
    none

/- User name and password: the first colon divides them. -/
def User.ofChars (cs : List Char) : User where
  name := cs.takeWhile (· != ':')
  password := (cs.dropWhile (· != ':')).drop 1

/- Whether there is a user name or a password. -/
def User.isPresent (u : User) : Bool :=
  u.name ≠ [] || u.password ≠ []

/-
  Cut a host from what follows it, at the first colon outside
  square brackets.
-/
def cutHost (inside : Bool) :
    List Char → List Char × List Char
  | [] => ([], [])
  | c :: cs =>
      if c = ':' ∧ !inside then
        ([], c :: cs)
      else
        let inside' :=
          if c = '[' then true
          else if c = ']' then false
          else inside
        let r := cutHost inside' cs
        (c :: r.1, r.2)

/- Read a port; without digits there is none. -/
def parsePort (cs : List Char) : Except Error (Option Nat) :=
  match cs with
  | [] => .ok none
  | _ =>
      match Text.ofDecimal? cs with
      | some n =>
          if n < UInt16.size then .ok (some n) else .error .badPort
      | none => .error .badPort

/- An authority in its parts. -/
structure Authority where
  user : User
  host : List Char
  port : Option (List Char)
deriving DecidableEq, Inhabited, Repr

/-
  Cut an authority into its parts.  `more` says that the
  address goes on after it; then an at-sign must not be all
  there is.
-/
def Authority.ofChars
    (cs : List Char)
    (more : Bool) : Except Error Authority :=
  let cut := (cutLastAt? cs).getD ([], cs)
  if cs = ['@'] ∧ more then
    .error .emptyHost
  else
    let host := cutHost false cut.2
    .ok
      { user := User.ofChars cut.1
        host := host.1
        port :=
          match host.2 with
          | _ :: digits => some digits
          | [] => none }

/- Read the port of an authority. -/
def Authority.parsePort (a : Authority) :
    Except Error (Option Nat) :=
  match a.port with
  | some digits => Url.parsePort digits
  | none => .ok none

------------------------------------------------------------
-- Path
------------------------------------------------------------

/- Whether a segment stands for the place it is in. -/
def isSingleDot (s : List Char) : Bool :=
  [".".toList, "%2e".toList].contains (s.map Char.toLower)

/- Whether a segment stands for the place above. -/
def isDoubleDot (s : List Char) : Bool :=
  ["..".toList, ".%2e".toList, "%2e.".toList,
    "%2e%2e".toList].contains (s.map Char.toLower)

/- Cut a path at its slashes of either kind. -/
def cutSegments (cs : List Char) : List (List Char) :=
  Domain.splitOn '/' (cs.map fun c => if c = '\\' then '/' else c)

/- Follow the segments of a path; `done` stands last first. -/
def follow (done : List (List Char)) :
    List (List Char) → List (List Char)
  | [] => done.reverse
  | s :: rest =>
      let last := rest.isEmpty
      if isDoubleDot s then
        let above := done.drop 1
        follow (if last then [] :: above else above) rest
      else if isSingleDot s then
        follow (if last then [] :: done else done) rest
      else
        follow (Percent.encode Percent.inPath s :: done) rest

/- The segments of a path after its first slash. -/
def segments (cs : List Char) : List String :=
  (follow [] (cutSegments cs)).map String.ofList

------------------------------------------------------------
-- Addresses
------------------------------------------------------------

/- What a text is the address of. -/
inductive Target
  | web (u : Url)
  | other (scheme : String)
deriving DecidableEq, Inhabited, Repr

/- The scheme of a target. -/
def Target.scheme : Target → String
  | web u => u.scheme
  | other scheme => scheme

/- The query and the fragment that end an address. -/
def parseTail (cs : List Char) : Option String × Option String :=
  let fragment (rest : List Char) : String :=
    String.ofList (Percent.encode Percent.inFragment rest)
  let query (rest : List Char) : String :=
    String.ofList (Percent.encode Percent.inQuery rest)
  match cs with
  | '?' :: rest =>
      match rest.dropWhile (· != '#') with
      | _ :: f =>
          (some (query (rest.takeWhile (· != '#'))),
            some (fragment f))
      | [] => (some (query rest), none)
  | '#' :: rest => (none, some (fragment rest))
  | _ => (none, none)

/- Put a part of the authority into its normal form. -/
def userPart (cs : List Char) : String :=
  String.ofList (Percent.encode Percent.inUser cs)

/- Read the authority of an address that needs a host. -/
def parseAuthority
    (backslash : Bool)
    (cs : List Char) :
    Except Error (Authority × Host × Option Nat × List Char) := do
  let ends := endsAuthority backslash
  let rest := cs.dropWhile fun c => !ends c
  let a ← Authority.ofChars (cs.takeWhile fun c => !ends c)
    (rest ≠ [])
  if a.host = [] then
    throw .emptyHost
  let host ← Host.parse a.host
  let port ← a.parsePort
  return (a, host, port, rest)

/- Read an address on the web after its scheme. -/
def parseWeb
    (secure : Bool)
    (cs : List Char) : Except Error Url := do
  let start := cs.dropWhile fun c => c == '/' || c == '\\'
  let (a, host, port, rest) ← parseAuthority true start
  let isPathChar (c : Char) : Bool := c != '?' && c != '#'
  let path := rest.takeWhile isPathChar
  let tail := parseTail (rest.dropWhile isPathChar)
  return {
    secure := secure
    username := userPart a.user.name
    password := userPart a.user.password
    host := host
    port :=
      (port.map UInt16.ofNat).filter
        fun p => p != defaultPort secure
    path := segments (path.drop 1)
    query := tail.1
    fragment := tail.2 }

/- Check the host that a file is on. -/
def checkFile (cs : List Char) : Except Error Unit :=
  match cs with
  | a :: b :: rest =>
      let isSlash (c : Char) : Bool := c == '/' || c == '\\'
      if isSlash a && isSlash b then
        let host :=
          rest.takeWhile fun c => !endsAuthority true c
        let isDrive :=
          match host with
          | [letter, mark] =>
              isLetter letter && (mark == ':' || mark == '|')
          | _ => false
        if host.isEmpty || isDrive then
          .ok ()
        else
          (Host.parse host).map fun _ => ()
      else
        .ok ()
  | _ => .ok ()

/-
  Check an address of a scheme that is unknown here.  Its
  port may also be followed by a backslash.
-/
def checkOther (cs : List Char) : Except Error Unit :=
  match cs with
  | '/' :: '/' :: rest => do
      let ends := endsAuthority false
      let more := rest.dropWhile fun c => !ends c
      let a ← Authority.ofChars (rest.takeWhile fun c => !ends c)
        (more ≠ [])
      Host.checkOpaque a.host
      if a.host = [] then
        if a.port.isSome then
          throw .emptyHost
        if a.user.isPresent then
          throw .emptyHost
      let port := a.port.map fun p => p.takeWhile (· != '\\')
      let _ ← { a with port := port }.parsePort
      return ()
  | _ => .ok ()

/- Read an address. -/
def parse (text : String) : Except Error Target :=
  match cutScheme? (clean text.toList) with
  | none => .error .noScheme
  | some (scheme, rest) =>
      match SchemeKind.ofScheme scheme with
      | .web secure => (parseWeb secure rest).map .web
      | .webLike =>
          (parseAuthority true
            (rest.dropWhile fun c => c == '/' || c == '\\')).map
            fun _ => .other scheme
      | .file => (checkFile rest).map fun _ => .other scheme
      | .other => (checkOther rest).map fun _ => .other scheme

end Url

end EventFeed
