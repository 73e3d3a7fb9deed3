import EventFeed.Text.Hex

/-
  This file defines time as the feed sees it: instants and
  spans are whole milliseconds, and a span is written in the
  largest unit that does not exceed it.

  Key definitions include:
    * `Time`
    * `Span`
    * `Span.text`
    * `Span.seconds`
-/

------------------------------------------------------------
-- Instants and Spans
------------------------------------------------------------

namespace EventFeed

/- An instant, in milliseconds since a session began. -/
abbrev Time :=
  Nat

/- A length of time in milliseconds. -/
abbrev Span :=
  Nat

namespace Span

/- Drop the zeros at the end of a fraction. -/
def dropTrailingZeros (digits : List Char) : List Char :=
  (digits.reverse.dropWhile (· == '0')).reverse

/- The three digits of a number below a thousand. -/
def thousandths (n : Nat) : List Char :=
  [Nat.digitChar (n / 100 % 10), Nat.digitChar (n / 10 % 10),
    Nat.digitChar (n % 10)]

/-
  A span in seconds if it lasts one, otherwise in
  milliseconds, with no needless zero in its fraction.
-/
def text (s : Span) : String :=
  if s = 0 then
    "0ns"
  else if s < 1000 then
    String.ofList (Text.decimal s) ++ "ms"
  else
    let whole := String.ofList (Text.decimal (s / 1000))
    match dropTrailingZeros (thousandths (s % 1000)) with
    | [] => whole ++ "s"
    | digits => whole ++ "." ++ String.ofList digits ++ "s"

/- The whole seconds of a span. -/
def seconds (s : Span) : Nat :=
  s / 1000

end Span

end EventFeed
