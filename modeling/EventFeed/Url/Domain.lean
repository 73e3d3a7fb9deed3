import EventFeed.Text.Normal
import EventFeed.Url.Domain.Classes
import EventFeed.Url.Domain.Mapping
import EventFeed.Url.Domain.Punycode

/-
  This file defines the ASCII form of a domain name.

  The name is mapped character by character, brought to its
  normal form and cut into labels.  A label that is not ASCII
  is encoded; one that claims to be encoded must decode to
  what would be encoded again.  Every label obeys the rules
  for marks, joiners and directions of writing.

  Key definitions include:
    * `Domain.map?`
    * `Domain.joinersOk`
    * `Domain.directionOk`
    * `Domain.label?`
    * `Domain.toAscii?`
-/

------------------------------------------------------------
-- Mapping
------------------------------------------------------------

namespace EventFeed

namespace Domain

/- The ASCII characters that end or spoil a host name. -/
def isForbidden (c : Char) : Bool :=
  c ≤ ' ' || c == '\x7f' ||
    ['%', '#', '/', ':', '<', '>', '?', '@', '[', '\\', ']',
      '^', '|'].contains c

/- Map a name and bring it to its normal form. -/
def map? (cs : List Char) : Option (List Char) := do
  let parts ← cs.mapM mapChar?
  let mapped := Text.normalForm parts.flatten
  if mapped.any isForbidden then
    none
  else
    return mapped

/- Whether the character is ASCII. -/
def isAscii (c : Char) : Bool :=
  c.toNat < 0x80

/- Cut a list at each place of a character. -/
def splitOn (sep : Char) : List Char → List (List Char)
  | [] => [[]]
  | c :: cs =>
      match splitOn sep cs with
      | [] => [[c]]
      | first :: rest =>
          if c = sep then
            [] :: first :: rest
          else
            (c :: first) :: rest

------------------------------------------------------------
-- Joiners
------------------------------------------------------------

/- The class of the mark that stands for a missing vowel. -/
def viramaClass : Nat := 9

/- Whether letters join across: those before, last first. -/
def joinsAcross (before after : List Char) : Bool :=
  let skip (cs : List Char) :=
    cs.dropWhile fun c => joining c == .transparent
  let left :=
    match skip before with
    | c :: _ => joining c == .left || joining c == .dual
    | [] => false
  let right :=
    match skip after with
    | c :: _ => joining c == .right || joining c == .dual
    | [] => false
  left && right

/-
  A joiner must follow the mark of a missing vowel; one that
  keeps letters apart may also stand where they would join.
-/
def joinersOk (before : List Char) : List Char → Bool
  | [] => true
  | c :: after =>
      let virama :=
        match before with
        | b :: _ => Text.Normal.markClass b == viramaClass
        | [] => false
      let ok :=
        if c = '\u200c' then
          virama || joinsAcross before after
        else if c = '\u200d' then
          virama
        else
          true
      ok && joinersOk (c :: before) after

------------------------------------------------------------
-- Directions of Writing
------------------------------------------------------------

/- Whether a class makes a name one that is written both ways. -/
def Direction.isRightward : Direction → Bool
  | .right => true
  | .arabicLetter => true
  | .arabicNumber => true
  | _ => false

/- The classes that any label may hold. -/
def Direction.isNeutral : Direction → Bool
  | .europeanNumber => true
  | .europeanSeparator => true
  | .commonSeparator => true
  | .europeanTerminator => true
  | .otherNeutral => true
  | .boundaryNeutral => true
  | .nonspacingMark => true
  | _ => false

/- The class of the last character that is no mark. -/
def lastDirection (ds : List Direction) : Direction :=
  (ds.reverse.dropWhile (· == .nonspacingMark)).headD .other

/-
  A label keeps to the direction of its first letter and
  ends in a letter or a number, and one that is written from
  right to left does not mix two kinds of numbers.
-/
def directionOk (label : List Char) : Bool :=
  let ds := label.map direction
  match ds with
  | [] => true
  | .left :: _ =>
      ds.all (fun d => d == .left || d.isNeutral) &&
        [Direction.left, .europeanNumber].contains
          (lastDirection ds)
  | d :: _ =>
      (d == .right || d == .arabicLetter) &&
        ds.all (fun d => d.isRightward || d.isNeutral) &&
        [Direction.right, .arabicLetter, .europeanNumber,
          .arabicNumber].contains (lastDirection ds) &&
        !(ds.contains .europeanNumber &&
          ds.contains .arabicNumber)

------------------------------------------------------------
-- Labels
------------------------------------------------------------

/- What starts a label that is encoded. -/
def encodedMark : List Char :=
  ['x', 'n', '-', '-']

/- The longest label that is encoded. -/
def maxEncode : Nat := 1000

/- The longest label that is decoded. -/
def maxDecode : Nat := 2000

/- A label as it reads, and as it is written in ASCII. -/
structure Label where
  text : List Char
  ascii : List Char
deriving DecidableEq, Inhabited, Repr

/- A label that is not ASCII begins with a letter of its own. -/
def startsWell (text : List Char) : Bool :=
  match text with
  | c :: _ => !marks.contains c
  | [] => true

/- Whether a decoded label would be encoded again. -/
def isSettled (text : List Char) : Bool :=
  text.all (fun c => mapChar? c == some [c]) &&
    Text.normalForm text == text &&
    text.any fun c => !isAscii c

/- Read a label that has been mapped. -/
def label? (text : List Char) : Option Label :=
  if text.all isAscii then
    if encodedMark.isPrefixOf text then
      let digits := text.drop encodedMark.length
      if maxDecode < digits.length then
        none
      else
        match Punycode.decode? digits with
        | some plain =>
            if isSettled plain && startsWell plain &&
                joinersOk [] plain then
              some ⟨plain, text⟩
            else
              none
        | none => none
    else
      some ⟨text, text⟩
  else if encodedMark.isPrefixOf text ||
      maxEncode < text.length || !startsWell text ||
      !joinersOk [] text then
    none
  else
    some ⟨text, encodedMark ++ Punycode.encode text⟩

------------------------------------------------------------
-- Names
------------------------------------------------------------

/- Whether any label is written from right to left. -/
def isMixed (labels : List Label) : Bool :=
  labels.any fun l =>
    l.text.any fun c => (direction c).isRightward

/- The ASCII form of a domain name. -/
def toAscii? (cs : List Char) : Option (List Char) := do
  let mapped ← map? cs
  let labels ← (splitOn '.' mapped).mapM label?
  if isMixed labels &&
      !labels.all (fun l => directionOk l.text) then
    none
  else
    return ['.'].intercalate (labels.map Label.ascii)

end Domain

end EventFeed
