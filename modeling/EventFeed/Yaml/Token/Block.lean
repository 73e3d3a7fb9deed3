import EventFeed.Text.Hex
import EventFeed.Yaml.Token

/-
  This file reads scalars that are written as blocks of
  indented lines.

  A literal block keeps its line ends.  A folded block joins
  its lines, those apart that start with white.

  Key definitions include:
    * `Block.Tail`
    * `Block.Header`
    * `Block.read?`
-/

------------------------------------------------------------
-- Headers
------------------------------------------------------------

namespace EventFeed

namespace Yaml

namespace Block

/- What becomes of the line ends behind the last line. -/
inductive Tail
  /- none is kept -/
  | strip
  /- the first is kept -/
  | clip
  /- all are kept -/
  | keep
deriving DecidableEq, Inhabited, Repr

/- What may follow the mark of a block. -/
structure Header where
  tail : Tail
  step : Option Nat
deriving DecidableEq, Inhabited, Repr

/- The tail that a character asks for. -/
def Tail.ofChar? : Char → Option Tail
  | '+' => some .keep
  | '-' => some .strip
  | _ => none

/- Take the tail, if the block names one. -/
def takeTail : List Spot → Option Tail × List Spot
  | [] => (none, [])
  | s :: rest =>
      match Tail.ofChar? s.char with
      | some t => (some t, rest)
      | none => (none, s :: rest)

/-
  Take the indentation, if the block names one.  No lines can
  be indented by nothing.
-/
def takeStep? :
    List Spot → Option (Option Nat × List Spot)
  | [] => some (none, [])
  | s :: rest =>
      match Text.digit? s.char with
      | some 0 => none
      | some n => some (some n, rest)
      | none => some (none, s :: rest)

/- Read the header and pass to the next line. -/
def header? (spots : List Spot) : Option (Header × List Spot) :=
  let (tail, rest) := takeTail spots
  match takeStep? rest with
  | none => none
  | some (step, rest) =>
      let (tail, rest) :=
        match tail with
        | some t => (some t, rest)
        | none =>
            if step.isSome then takeTail rest else (none, rest)
      (Spot.endLine? rest).map fun rest =>
        (⟨tail.getD .clip, step⟩, rest)

------------------------------------------------------------
-- Lines
------------------------------------------------------------

/-
  A block in the making: its characters so far (last first),
  the end of its last line, the empty lines since, whether
  that line started with white, and whether a line goes on.
-/
structure Body where
  chars : List Char
  first : Option Char
  more : List Char
  isWhiteLed : Bool
  inLine : Bool
deriving Inhabited, Repr

namespace Body

/- A block without a line. -/
def empty : Body :=
  ⟨[], none, [], false, false⟩

/- Start a line with its first character. -/
def startLine (b : Body) (folded : Bool) (c : Char) : Body :=
  let joined :=
    if folded && b.first == some '\n' && !b.isWhiteLed &&
        !isWhite c then
      if b.more.isEmpty then [' '] else b.more
    else
      b.first.toList ++ b.more
  ⟨c :: (joined.reverse ++ b.chars), none, [], isWhite c, true⟩

/- The text of the block. -/
def text (b : Body) (tail : Tail) : String :=
  let ends :=
    match tail with
    | .strip => []
    | .clip => b.first.toList
    | .keep => b.first.toList ++ b.more
  String.ofList (b.chars.reverse ++ ends)

end Body

/-
  Find the indentation from the widest of the lines up to the
  first that is not empty, and collect the empty lines.
-/
def findMargin?
    (widest : Nat)
    (empty : List Char) :
    List Spot → Option (Nat × List Char × List Spot)
  | [] => some (widest, empty, [])
  | s :: rest =>
      if s.char = ' ' then
        findMargin? (max widest (s.column + 1)) empty rest
      else if s.char = '\t' then
        none
      else if isBreak s.char then
        findMargin? widest (empty ++ [s.char]) rest
      else
        some (widest, empty, s :: rest)

/- Read the lines that start at the margin. -/
def lines?
    (folded : Bool)
    (margin : Nat)
    (body : Body) : List Spot → Option (Body × List Spot)
  | [] => some (body, [])
  | s :: rest =>
      if body.inLine then
        if isBreak s.char then
          lines? folded margin
            { body with first := some s.char, inLine := false }
            rest
        else
          lines? folded margin
            { body with chars := s.char :: body.chars } rest
      else if s.column < margin ∧ s.char = ' ' then
        lines? folded margin body rest
      else if s.column < margin ∧ s.char = '\t' then
        none
      else if isBreak s.char then
        lines? folded margin
          { body with more := body.more ++ [s.char] } rest
      else if s.column = margin then
        lines? folded margin (body.startLine folded s.char) rest
      else
        some (body, s :: rest)

------------------------------------------------------------
-- Blocks
------------------------------------------------------------

/-
  Read a block behind its mark.  Its lines are indented more
  than the collection around it, if there is one.
-/
def read?
    (folded : Bool)
    (around : Option Nat)
    (spots : List Spot) : Option (String × List Spot) := do
  let (header, rest) ← header? spots
  match header.step with
  | some n =>
      let (body, rest) ←
        lines? folded (around.getD 0 + n) Body.empty rest
      some (body.text header.tail, rest)
  | none =>
      let (widest, more, rest) ← findMargin? 0 [] rest
      let least :=
        match around with
        | some n => n + 1
        | none => 1
      let (body, rest) ←
        lines? folded (max widest least)
          { Body.empty with more := more } rest
      some (body.text header.tail, rest)

end Block

end Yaml

end EventFeed
