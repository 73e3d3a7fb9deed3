import EventFeed.Text.Hex
import EventFeed.Yaml.Token

/-
  This file reads names: anchors, aliases, tags and what
  directives say about the version and the handles of tags.

  Key definitions include:
    * `Name.read?`
    * `Tag.uri?`
    * `Tag.read?`
    * `Directive.read?`
-/

------------------------------------------------------------
-- Anchors and Aliases
------------------------------------------------------------

namespace EventFeed

namespace Yaml

namespace Name

/- Read the name behind the mark of an anchor or an alias. -/
def read? (spots : List Spot) : Option (String × List Spot) :=
  let (word, rest) := Spot.takeWord spots
  let closed :=
    match Spot.charAt? rest 0 with
    | some c => isApart (some c) || "?:,]\x7d%@`".contains c
    | none => true
  if word.isEmpty || !closed then none
  else some (String.ofList word, rest)

end Name

------------------------------------------------------------
-- Tags
------------------------------------------------------------

namespace Tag

/- The characters of a tag; flow marks count in brackets. -/
def isUri (bracketed : Bool) (c : Char) : Bool :=
  isWord c || ";/?:@&=+$.!~*'()".contains c ||
    (bracketed && ",[]".contains c)

/- How many octets follow the first one of a character. -/
def following? (octet : Nat) : Option Nat :=
  if octet < 0x80 then some 0
  else if octet < 0xc0 then none
  else if octet < 0xe0 then some 1
  else if octet < 0xf0 then some 2
  else if octet < 0xf8 then some 3
  else none

/- How many octets are due after one more. -/
def due? (left octet : Nat) : Option Nat :=
  if left = 0 then following? octet
  else if 0x80 ≤ octet ∧ octet < 0xc0 then some (left - 1)
  else none

/-
  Read the characters of a tag; each escaped octet counts as
  the character of that number.  While octets are due, only
  escapes may follow.
-/
def uri?
    (bracketed : Bool)
    (left : Nat)
    (chars : List Char) :
    List Spot → Option (List Char × List Spot)
  | [] => if left = 0 then some (chars.reverse, []) else none
  | s :: rest =>
      if s.char = '%' then
        match rest with
        | x :: y :: rest' =>
            match Text.hexDigit? x.char,
                Text.hexDigit? y.char with
            | some a, some b =>
                match due? left (a * 16 + b) with
                | some left' =>
                    uri? bracketed left'
                      (Char.ofNat (a * 16 + b) :: chars) rest'
                | none => none
            | _, _ => none
        | _ => none
      else if left ≠ 0 then
        none
      else if isUri bracketed s.char then
        uri? bracketed 0 (s.char :: chars) rest
      else
        some (chars.reverse, s :: rest)

/- Read the characters of a tag, of which there are some. -/
def someUri?
    (bracketed : Bool)
    (spots : List Spot) : Option (List Char × List Spot) :=
  (uri? bracketed 0 [] spots).bind fun (cs, rest) =>
    if cs.isEmpty then none else some (cs, rest)

/- The text of a tag, which an escaped NUL ends. -/
def text (cs : List Char) : String :=
  String.ofList (cs.takeWhile (· != '\x00'))

/- A tag that is written with a suffix only. -/
def ofSuffix (cs : List Char) : Token :=
  if text cs = "" then .tag "" "!" else .tag "!" (text cs)

/- Read a tag behind its mark. -/
def body? (spots : List Spot) : Option (Token × List Spot) :=
  if Spot.charAt? spots 0 = some '<' then
    match someUri? true (spots.drop 1) with
    | some (cs, s :: rest) =>
        if s.char = '>' then some (.tag "" (text cs), rest)
        else none
    | _ => none
  else
    let (word, rest) := Spot.takeWord spots
    if Spot.charAt? rest 0 = some '!' then
      (someUri? false (rest.drop 1)).map fun (cs, rest) =>
        (.tag (String.ofList ('!' :: word ++ ['!'])) (text cs),
          rest)
    else
      (uri? false 0 [] rest).map fun (cs, rest) =>
        (ofSuffix (word ++ cs), rest)

/- Read a tag that is kept apart from what follows. -/
def read?
    (flow : Bool)
    (spots : List Spot) : Option (Token × List Spot) :=
  (body? spots).bind fun (tag, rest) =>
    let next := Spot.charAt? rest 0
    if isApart next || (flow && next == some ',') then
      some (tag, rest)
    else
      none

end Tag

------------------------------------------------------------
-- Directives
------------------------------------------------------------

namespace Directive

/- Read a number of at most nine digits. -/
def number? (spots : List Spot) : Option (Nat × List Spot) :=
  let isDigit := fun s : Spot => (Text.digit? s.char).isSome
  let digits := spots.takeWhile isDigit
  if digits.isEmpty || 9 < digits.length then
    none
  else
    some
      (digits.foldl
        (fun n s => n * 10 + (Text.digit? s.char).getD 0) 0,
        spots.dropWhile isDigit)

/- Read the version that a stream asks for. -/
def version? (spots : List Spot) : Option (Token × List Spot) :=
  match number? (Spot.dropWhite spots) with
  | some (major, s :: rest) =>
      if s.char = '.' then
        (number? rest).map fun (minor, rest) =>
          (.version major minor, rest)
      else
        none
  | _ => none

/- Read the name of a handle. -/
def handleName? (spots : List Spot) :
    Option (String × List Spot) :=
  match spots with
  | [] => none
  | s :: rest =>
      let (word, rest) := Spot.takeWord rest
      if s.char ≠ '!' then
        none
      else if Spot.charAt? rest 0 = some '!' then
        some (String.ofList ('!' :: word ++ ['!']), rest.drop 1)
      else if word.isEmpty then
        some ("!", rest)
      else
        none

/- Read a handle and what it stands for. -/
def handle? (spots : List Spot) : Option (Token × List Spot) :=
  match handleName? (Spot.dropWhite spots) with
  | none => none
  | some (name, rest) =>
      if (Spot.charAt? rest 0).any isWhite then
        match Tag.someUri? true (Spot.dropWhite rest) with
        | some (cs, rest) =>
            if Spot.isOver rest then
              some (.handle name (Tag.text cs), rest)
            else
              none
        | none => none
      else
        none

/- Read a directive behind its mark, up to the next line. -/
def read? (spots : List Spot) : Option (Token × List Spot) := do
  let (word, rest) := Spot.takeWord spots
  if !Spot.isOver rest then
    none
  else
    let (token, rest) ←
      if word = "YAML".toList then version? rest
      else if word = "TAG".toList then handle? rest
      else none
    return (token, ← Spot.endLine? rest)

end Directive

end Yaml

end EventFeed
