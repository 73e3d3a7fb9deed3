import EventFeed.Yaml.Token.Gap

/-
  This file reads scalars that are written plainly.

  Key definitions include:
    * `Plain`
    * `Plain.read?`
-/

------------------------------------------------------------
-- Plain Scalars
------------------------------------------------------------

namespace EventFeed

namespace Yaml

/- A plain scalar, and whether a line ended behind it. -/
structure Plain where
  text : String
  isBroken : Bool
  rest : List Spot
deriving Inhabited, Repr

namespace Plain

/- The marks of flow collections. -/
def isFlowMark (c : Char) : Bool :=
  c == ',' || c == '[' || c == ']' || c == '{' || c == '}'

/- Whether the scalar is over where a word starts. -/
def endsAtWord
    (flow : Bool)
    (margin : Nat)
    (s : Spot)
    (rest : List Spot) : Bool :=
  (!flow && decide (s.column < margin)) || s.char == '#' ||
    Spot.isBorder (s :: rest)

/- Whether the scalar is over at this character. -/
def endsAtChar
    (flow : Bool)
    (s : Spot)
    (rest : List Spot) : Bool :=
  (s.char == ':' && Spot.isOver rest) ||
    (flow && isFlowMark s.char)

/- Whether a colon stands where it must not. -/
def isStray
    (flow : Bool)
    (s : Spot)
    (rest : List Spot) : Bool :=
  flow && s.char == ':' &&
    match Spot.charAt? rest 0 with
    | some c => c == '?' || isFlowMark c
    | none => false

/-
  Read on after the characters so far (last first) and the
  gap behind them.  Lines go on to the right of the margin.
-/
def readFrom?
    (flow : Bool)
    (margin : Nat)
    (chars : List Char)
    (gap : Gap) : List Spot → Option Plain
  | [] =>
      some ⟨String.ofList chars.reverse, gap.isBroken, []⟩
  | s :: rest =>
      if isWhite s.char then
        if gap.isBroken && s.char == '\t' &&
            decide (s.column < margin) then
          none
        else
          readFrom? flow margin chars (gap.pushWhite s.char) rest
      else if isBreak s.char then
        readFrom? flow margin chars (gap.pushBreak s.char) rest
      else if !gap.isNone && endsAtWord flow margin s rest then
        some ⟨String.ofList chars.reverse, gap.isBroken,
          s :: rest⟩
      else if isStray flow s rest then
        none
      else if endsAtChar flow s rest then
        some ⟨String.ofList chars.reverse, gap.isBroken,
          s :: rest⟩
      else
        readFrom? flow margin (s.char :: gap.onto chars)
          Gap.none rest

/- Read a plain scalar. -/
def read?
    (flow : Bool)
    (margin : Nat)
    (spots : List Spot) : Option Plain :=
  readFrom? flow margin [] Gap.none spots

/- Whether a plain scalar starts here. -/
def starts (flow : Bool) (s : Spot) (rest : List Spot) : Bool :=
  let next := Spot.charAt? rest 0
  if s.char = '-' then
    !next.any isWhite
  else if s.char = '?' ∨ s.char = ':' then
    !flow && !isApart next
  else
    !(isApart (some s.char) || isFlowMark s.char ||
      "#&*!|>'\"%@`".contains s.char)

end Plain

end Yaml

end EventFeed
