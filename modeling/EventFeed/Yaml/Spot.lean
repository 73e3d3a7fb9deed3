/-
  This file defines the text of a YAML stream as a list of
  characters that know their place.

  Every way to end a line but the two separators of Unicode
  is read as a line feed, and the places count the characters
  of the text before that.

  Key definitions include:
    * `isAllowed`
    * `isWhite`
    * `isBreak`
    * `isWord`
    * `Spot`
    * `Spot.ofChars?`
    * `Spot.isMark`
-/

------------------------------------------------------------
-- Characters
------------------------------------------------------------

namespace EventFeed

namespace Yaml

/- The characters a stream may hold. -/
def isAllowed (c : Char) : Bool :=
  c == '\t' || c == '\n' || c == '\r' || c == '\u0085' ||
    (' ' ≤ c && c ≤ '~') || ('\u00a0' ≤ c && c ≤ '\ufffd') ||
    0x10000 ≤ c.toNat

/- The characters that keep words apart within a line. -/
def isWhite (c : Char) : Bool :=
  c == ' ' || c == '\t'

/- The characters that end a line, once they are unified. -/
def isBreak (c : Char) : Bool :=
  c == '\n' || c == '\u2028' || c == '\u2029'

/- The characters that names are made of. -/
def isWord (c : Char) : Bool :=
  ('0' ≤ c && c ≤ '9') || ('a' ≤ c && c ≤ 'z') ||
    ('A' ≤ c && c ≤ 'Z') || c == '_' || c == '-'

/- Whether a word is over before this, or at the end. -/
def isApart : Option Char → Bool
  | some c => isWhite c || isBreak c
  | none => true

------------------------------------------------------------
-- Places
------------------------------------------------------------

/- A character with its line, column and index. -/
structure Spot where
  char : Char
  line : Nat
  column : Nat
  index : Nat
deriving DecidableEq, Inhabited, Repr

namespace Spot

/- Give every character its place and unify line ends. -/
def place (line column index : Nat) : List Char → List Spot
  | '\r' :: '\n' :: rest =>
      ⟨'\n', line, column, index⟩ ::
        place (line + 1) 0 (index + 2) rest
  | c :: rest =>
      let c' := if c = '\r' ∨ c = '\u0085' then '\n' else c
      ⟨c', line, column, index⟩ ::
        if isBreak c' then
          place (line + 1) 0 (index + 1) rest
        else
          place line (column + 1) (index + 1) rest
  | [] => []

/- Read a text, if it holds allowed characters only. -/
def ofChars? (cs : List Char) : Option (List Spot) :=
  if cs.all isAllowed then some (place 0 0 0 cs) else none

/- The character that stands at a distance. -/
def charAt? (spots : List Spot) (n : Nat) : Option Char :=
  spots[n]?.map (·.char)

/-
  Whether a line starts here with three times the character,
  apart from what follows.
-/
def isMark (c : Char) (spots : List Spot) : Bool :=
  match spots with
  | x :: y :: z :: rest =>
      x.column == 0 && x.char == c && y.char == c &&
        z.char == c && isApart (charAt? rest 0)
  | _ => false

/- Whether a document starts or ends here. -/
def isBorder (spots : List Spot) : Bool :=
  isMark '-' spots || isMark '.' spots

/- Whether nothing of the word before goes on here. -/
def isOver (spots : List Spot) : Bool :=
  isApart (charAt? spots 0)

/- Drop what stands between words within the line. -/
def dropWhite (spots : List Spot) : List Spot :=
  spots.dropWhile fun s => isWhite s.char

/- Drop everything before the end of the line. -/
def dropLine (spots : List Spot) : List Spot :=
  spots.dropWhile fun s => !isBreak s.char

/-
  Pass over the white and the comment that may end a line,
  and over the line end itself.
-/
def endLine? (spots : List Spot) : Option (List Spot) :=
  let spots := dropWhite spots
  let spots :=
    if charAt? spots 0 = some '#' then dropLine spots
    else spots
  match spots with
  | [] => some []
  | s :: rest => if isBreak s.char then some rest else none

/- Take the characters of a name. -/
def takeWord (spots : List Spot) : List Char × List Spot :=
  ((spots.takeWhile fun s => isWord s.char).map (·.char),
    spots.dropWhile fun s => isWord s.char)

end Spot

end Yaml

end EventFeed
