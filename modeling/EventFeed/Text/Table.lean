import EventFeed.Text.Hex
import EventFeed.Text.Sorted

/-
  This file defines tables of numbers that are written as
  text.  A row is a word: its key and its values, in
  hexadecimal, with hyphens between them.  Keys rise.

  Key definitions include:
    * `Table`
    * `Table.ofText`
    * `Table.find?`
    * `Table.floor?`
-/

------------------------------------------------------------
-- Tables
------------------------------------------------------------

namespace EventFeed

namespace Text

/- Rows of numbers, by rising keys. -/
structure Table where
  keys : Array Nat
  rows : Array (List Nat)

namespace Table

/- A row in the making: the numbers before, and the last. -/
structure Row where
  before : List Nat
  last : Option Nat

/- The numbers of a row, last first. -/
def Row.numbers (r : Row) : List Nat :=
  r.last.toList ++ r.before

/- Take one character of a row. -/
def Row.push (r : Row) (c : Char) : Row :=
  match hexDigit? c with
  | some d => { r with last := some (r.last.getD 0 * 16 + d) }
  | none => ⟨r.numbers, none⟩

/- Add a finished row. -/
def add (t : Table) (r : Row) : Table :=
  match r.numbers.reverse with
  | [] => t
  | key :: values =>
      { keys := t.keys.push key
        rows := t.rows.push values }

/- Read the characters of a table, row by row. -/
def read (t : Table) (r : Row) : List Char → Table
  | [] => t.add r
  | c :: cs =>
      if c = ' ' ∨ c = '\n' then
        read (t.add r) ⟨[], none⟩ cs
      else
        read t (r.push c) cs

/- The table that is written as a text. -/
def ofText (s : String) : Table :=
  read ⟨#[], #[]⟩ ⟨[], none⟩ s.toList

/- The row of the greatest key at or below a number. -/
def floor? (t : Table) (n : Nat) : Option (Nat × List Nat) :=
  match countUpTo t.keys n with
  | 0 => none
  | i + 1 => some (t.keys.getD i 0, t.rows.getD i [])

/- The row of a key. -/
def find? (t : Table) (n : Nat) : Option (List Nat) :=
  match t.floor? n with
  | some (key, values) => if key = n then some values else none
  | none => none

end Table

end Text

end EventFeed
