import EventFeed.Yaml.Token

/-
  This file defines the gaps between the words of a scalar
  that may run over several lines.

  Within a line a gap is kept as it is.  A single line end
  becomes a space; of several the first is dropped.

  Key definitions include:
    * `Gap`
    * `Gap.text`
-/

------------------------------------------------------------
-- Gaps
------------------------------------------------------------

namespace EventFeed

namespace Yaml

/-
  The white within a line, or the line ends: the first, if it
  counts, and the others.
-/
inductive Gap
  | white (cs : List Char)
  | lines (first : Option Char) (more : List Char)
deriving DecidableEq, Inhabited, Repr

namespace Gap

/- The gap between characters that touch. -/
def none : Gap :=
  .white []

/- Whether the gap is no gap. -/
def isNone : Gap → Bool
  | white cs => cs.isEmpty
  | lines _ _ => false

/- Whether a line ends in the gap. -/
def isBroken : Gap → Bool
  | white _ => false
  | lines _ _ => true

/- White after a line end does not count. -/
def pushWhite (g : Gap) (c : Char) : Gap :=
  match g with
  | white cs => white (cs ++ [c])
  | lines first more => lines first more

/- White before a line end does not count. -/
def pushBreak (g : Gap) (c : Char) : Gap :=
  match g with
  | white _ => lines (some c) []
  | lines first more => lines first (more ++ [c])

/- What the gap stands for in the scalar. -/
def text : Gap → List Char
  | white cs => cs
  | lines (some '\n') [] => [' ']
  | lines (some '\n') more => more
  | lines first more => first.toList ++ more

/- Put the gap after characters, last first. -/
def onto (g : Gap) (chars : List Char) : List Char :=
  g.text.reverse ++ chars

end Gap

end Yaml

end EventFeed
