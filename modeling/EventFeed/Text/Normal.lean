import EventFeed.Text.Normal.Data

/-
  This file defines the composed normal form of a text:
  characters are taken apart, marks are put in order, and
  what can be composed is put together again.

  Key definitions include:
    * `Normal.decompose`
    * `Normal.order`
    * `Normal.compose`
    * `normalForm`
-/

------------------------------------------------------------
-- Syllables
------------------------------------------------------------

namespace EventFeed

namespace Text

namespace Normal

/- The first leading consonant of a Hangul syllable. -/
def leadBase : Nat := 0x1100

/- The first vowel of a Hangul syllable. -/
def vowelBase : Nat := 0x1161

/- One before the first trailing consonant. -/
def trailBase : Nat := 0x11a7

/- The first Hangul syllable. -/
def syllableBase : Nat := 0xac00

/- How many leading consonants there are. -/
def leadCount : Nat := 19

/- How many vowels there are. -/
def vowelCount : Nat := 21

/- How many trailing consonants there are, none included. -/
def trailCount : Nat := 28

/- How many Hangul syllables there are. -/
def syllableCount : Nat :=
  leadCount * vowelCount * trailCount

/- The letters of a Hangul syllable. -/
def letters? (n : Nat) : Option (List Nat) :=
  if syllableBase ≤ n ∧ n < syllableBase + syllableCount then
    let i := n - syllableBase
    let lead := leadBase + i / (vowelCount * trailCount)
    let vowel :=
      vowelBase + i % (vowelCount * trailCount) / trailCount
    let trail := i % trailCount
    some
      (if trail = 0 then [lead, vowel]
        else [lead, vowel, trailBase + trail])
  else
    none

/- The Hangul syllable that two parts make. -/
def syllable? (a b : Nat) : Option Nat :=
  if leadBase ≤ a ∧ a < leadBase + leadCount ∧
      vowelBase ≤ b ∧ b < vowelBase + vowelCount then
    some
      (syllableBase +
        ((a - leadBase) * vowelCount + (b - vowelBase)) *
          trailCount)
  else if syllableBase ≤ a ∧
      a < syllableBase + syllableCount ∧
      (a - syllableBase) % trailCount = 0 ∧
      trailBase < b ∧ b < trailBase + trailCount then
    some (a + (b - trailBase))
  else
    none

------------------------------------------------------------
-- Decomposition
------------------------------------------------------------

/- Take a character apart, at most `depth` times. -/
def takeApart : Nat → Nat → List Nat
  | 0, n => [n]
  | depth + 1, n =>
      match letters? n with
      | some parts => parts
      | none =>
          match pair? n with
          | some (a, b) =>
              takeApart depth a ++ takeApart depth b
          | none => [n]

/- A character in its parts; no character nests deeper. -/
def decompose (c : Char) : List Char :=
  (takeApart 8 c.toNat).map Char.ofNat

------------------------------------------------------------
-- Order
------------------------------------------------------------

/- Put a mark behind those of its own class or a lower one. -/
def insertMark (c : Char) : List Char → List Char
  | [] => [c]
  | d :: rest =>
      if markClass c < markClass d then
        c :: d :: rest
      else
        d :: insertMark c rest

/- Order the marks between characters of class zero. -/
def order (held : List Char) : List Char → List Char
  | [] => held
  | c :: rest =>
      if markClass c = 0 then
        held ++ c :: order [] rest
      else
        order (insertMark c held) rest

------------------------------------------------------------
-- Composition
------------------------------------------------------------

/- The character that is made of two. -/
def composed? (a b : Char) : Option Char :=
  match syllable? a.toNat b.toNat with
  | some n => some (Char.ofNat n)
  | none =>
      (pairs.rows.findIdx? (· == [a.toNat, b.toNat])).map
        fun i => Char.ofNat (pairs.keys.getD i 0)

/-
  Compose what follows a base.  `held` are the marks behind
  the base that did not compose, last first; they shut out
  later marks of their own class or a lower one.
-/
def composeAfter
    (base : Char)
    (held : List Char) :
    List Char → List Char
  | [] => base :: held.reverse
  | c :: rest =>
      let free :=
        match held with
        | [] => true
        | h :: _ => markClass h < markClass c
      match if free then composed? base c else none with
      | some d => composeAfter d held rest
      | none =>
          if markClass c = 0 then
            base :: (held.reverse ++ composeAfter c [] rest)
          else
            composeAfter base (c :: held) rest

/- Compose all that can be composed. -/
def compose : List Char → List Char
  | [] => []
  | c :: rest =>
      if markClass c = 0 then
        composeAfter c [] rest
      else
        c :: compose rest

end Normal

/- The composed normal form of a text. -/
def normalForm (cs : List Char) : List Char :=
  Normal.compose (Normal.order [] (cs.flatMap Normal.decompose))

end Text

end EventFeed
