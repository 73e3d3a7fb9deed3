import EventFeed.Text.Sorted

/-
  This file defines sets of code points by their boundaries.

  The boundaries rise; the set holds what lies between the
  first and the second, between the third and the fourth, and
  so on.  A code point is in the set when an odd number of
  boundaries is at or below it.

  Key definitions include:
    * `CodeSet`
    * `CodeSet.contains`
-/

------------------------------------------------------------
-- Sets of Code Points
------------------------------------------------------------

namespace EventFeed

namespace Text

/- A set of code points, given by rising boundaries. -/
structure CodeSet where
  bounds : Array Nat

namespace CodeSet

/- Whether the set holds the character. -/
def contains (s : CodeSet) (c : Char) : Bool :=
  countUpTo s.bounds c.toNat % 2 == 1

end CodeSet

end Text

end EventFeed
