import EventFeed.Text.Hex
import EventFeed.Yaml.Token.Gap

/-
  This file reads scalars that are written between quotes.

  Between single quotes a quote is written twice.  Between
  double quotes a backslash starts an escape, and a line end
  behind it joins the lines without a space.

  Key definitions include:
    * `Quoted.single?`
    * `Quoted.double?`
-/

------------------------------------------------------------
-- Single Quotes
------------------------------------------------------------

namespace EventFeed

namespace Yaml

namespace Quoted

/-
  Read on behind a single quote after the characters so far
  (last first) and the gap behind them.
-/
def single?
    (chars : List Char)
    (gap : Gap) : List Spot → Option (String × List Spot)
  | [] => none
  | s :: rest =>
      if isWhite s.char then
        single? chars (gap.pushWhite s.char) rest
      else if isBreak s.char then
        single? chars (gap.pushBreak s.char) rest
      else if Spot.isBorder (s :: rest) then
        none
      else if s.char = '\'' then
        match rest with
        | [] =>
            some (String.ofList (gap.onto chars).reverse, [])
        | t :: rest' =>
            if t.char = '\'' then
              single? ('\'' :: gap.onto chars) Gap.none rest'
            else
              some (String.ofList (gap.onto chars).reverse,
                t :: rest')
      else
        single? (s.char :: gap.onto chars) Gap.none rest

------------------------------------------------------------
-- Double Quotes
------------------------------------------------------------

/- The character that a one-letter escape stands for. -/
def shortEscape? : Char → Option Char
  | '0' => some '\x00'
  | 'a' => some '\x07'
  | 'b' => some '\x08'
  | 't' => some '\t'
  | '\t' => some '\t'
  | 'n' => some '\n'
  | 'v' => some '\x0b'
  | 'f' => some '\x0c'
  | 'r' => some '\r'
  | 'e' => some '\x1b'
  | ' ' => some ' '
  | '"' => some '"'
  | '/' => some '/'
  | '\\' => some '\\'
  | 'N' => some '\u0085'
  | '_' => some '\u00a0'
  | 'L' => some '\u2028'
  | 'P' => some '\u2029'
  | _ => none

/- How many digits a numeric escape has. -/
def escapeDigits? : Char → Option Nat
  | 'x' => some 2
  | 'u' => some 4
  | 'U' => some 8
  | _ => none

/- The character of a number, if there is one. -/
def char? (n : Nat) : Option Char :=
  if n.isValidChar then some (Char.ofNat n) else none

/- Where an escape stands. -/
inductive Escape
  | none
  | slash
  | hex (left value : Nat)
deriving Inhabited, Repr

/-
  Read on behind a double quote after the characters so far
  (last first), the gap behind them and the escape in hand.
-/
def doubleFrom?
    (chars : List Char)
    (gap : Gap)
    (escape : Escape) :
    List Spot → Option (String × List Spot)
  | [] => none
  | s :: rest =>
      match escape with
      | .slash =>
          if isBreak s.char then
            doubleFrom? chars (.lines none []) .none rest
          else
            match shortEscape? s.char with
            | some c =>
                doubleFrom? (c :: chars) Gap.none .none rest
            | none =>
                match escapeDigits? s.char with
                | some n =>
                    doubleFrom? chars Gap.none (.hex n 0) rest
                | none => none
      | .hex left value =>
          match Text.hexDigit? s.char with
          | none => none
          | some d =>
              let value := value * 16 + d
              if left ≤ 1 then
                match char? value with
                | some c =>
                    doubleFrom? (c :: chars) Gap.none .none rest
                | none => none
              else
                doubleFrom? chars Gap.none
                  (.hex (left - 1) value) rest
      | .none =>
          if isWhite s.char then
            doubleFrom? chars (gap.pushWhite s.char) .none rest
          else if isBreak s.char then
            doubleFrom? chars (gap.pushBreak s.char) .none rest
          else if Spot.isBorder (s :: rest) then
            none
          else if s.char = '"' then
            some (String.ofList (gap.onto chars).reverse, rest)
          else if s.char = '\\' then
            doubleFrom? (gap.onto chars) Gap.none .slash rest
          else
            doubleFrom? (s.char :: gap.onto chars) Gap.none
              .none rest

/- Read on behind a double quote. -/
def double?
    (spots : List Spot) : Option (String × List Spot) :=
  doubleFrom? [] Gap.none .none spots

end Quoted

end Yaml

end EventFeed
