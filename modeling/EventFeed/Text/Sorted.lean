/-
  This file defines the search in rising sequences of
  numbers.

  Key definitions include:
    * `countUpTo`
-/

------------------------------------------------------------
-- Search by Halving
------------------------------------------------------------

namespace EventFeed

namespace Text

/-
  How many of the numbers from `low` up to `high` are at most
  `n`, counted with those below `low`.
-/
def countFrom
    (numbers : Array Nat)
    (n low high : Nat) : Nat :=
  if low < high then
    let middle := (low + high) / 2
    if numbers.getD middle 0 ≤ n then
      countFrom numbers n (middle + 1) high
    else
      countFrom numbers n low middle
  else
    low
termination_by high - low

/- How many of the rising numbers are at most `n`. -/
def countUpTo (numbers : Array Nat) (n : Nat) : Nat :=
  countFrom numbers n 0 numbers.size

end Text

end EventFeed
