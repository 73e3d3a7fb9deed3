/-
  This file defines the writing of a label in ASCII: its
  ASCII characters first, then the others as a series of
  differences.

  Key definitions include:
    * `Punycode.adapt`
    * `Punycode.encode`
    * `Punycode.decode?`
-/

------------------------------------------------------------
-- Parameters
------------------------------------------------------------

namespace EventFeed

namespace Punycode

/- How many digits there are. -/
def base : Nat := 36

/- The least threshold of a digit. -/
def tMin : Nat := 1

/- The greatest threshold of a digit. -/
def tMax : Nat := 26

/- The code point that differences count from. -/
def initialN : Nat := 128

/- The bias of the first difference. -/
def initialBias : Nat := 72

/- Divide until the number is small, counting the times. -/
def shrink (k n : Nat) : Nat × Nat :=
  if 455 < n then
    shrink (k + base) (n / 35)
  else
    (k, n)
termination_by n
decreasing_by omega

/- The bias that follows a difference. -/
def adapt (delta points : Nat) (first : Bool) : Nat :=
  let d := if first then delta / 700 else delta / 2
  let s := shrink 0 (d + d / points)
  s.1 + 36 * s.2 / (s.2 + 38)

/- The threshold of the digit at a place. -/
def threshold (k bias : Nat) : Nat :=
  if k ≤ bias + tMin then tMin
  else if bias + tMax ≤ k then tMax
  else k - bias

------------------------------------------------------------
-- Digits
------------------------------------------------------------

/- The character of a digit. -/
def digitChar (d : Nat) : Char :=
  if d < 26 then
    Char.ofNat ('a'.toNat + d)
  else
    Char.ofNat ('0'.toNat + (d - 26))

/- The digit of a character. -/
def digit? (c : Char) : Option Nat :=
  if 'a' ≤ c ∧ c ≤ 'z' then
    some (c.toNat - 'a'.toNat)
  else if 'A' ≤ c ∧ c ≤ 'Z' then
    some (c.toNat - 'A'.toNat)
  else if '0' ≤ c ∧ c ≤ '9' then
    some (c.toNat - '0'.toNat + 26)
  else
    none

------------------------------------------------------------
-- Encoding
------------------------------------------------------------

/- The digits of a difference, from the place `k` on. -/
def digits (bias k q : Nat) : List Char :=
  let t := threshold k bias
  if _h : q < t ∨ t < tMin ∨ tMax < t then
    [digitChar q]
  else
    digitChar (t + (q - t) % (base - t)) ::
      digits bias (k + base) ((q - t) / (base - t))
termination_by q
decreasing_by
  simp only [not_or, Nat.not_lt, tMin, tMax] at _h
  obtain ⟨h₁, h₂, h₃⟩ := _h
  have hb : 2 ≤ base - threshold k bias := by
    simp only [base]
    omega
  have hd :
      (q - threshold k bias) / (base - threshold k bias) ≤
        (q - threshold k bias) / 2 :=
    Nat.div_le_div_left hb (by decide)
  have hq := Nat.div_le_self (q - threshold k bias) 2
  omega

/- What the encoder carries along. -/
structure Encoding where
  delta : Nat
  bias : Nat
  handled : Nat
  text : List Char

/- Go over the label for the code point `n`. -/
def encodePoint (basic n : Nat) (s : Encoding) :
    List Char → Encoding
  | [] => s
  | c :: rest =>
      let s' :=
        if c.toNat < n then
          { s with delta := s.delta + 1 }
        else if c.toNat = n then
          { delta := 0
            bias :=
              adapt s.delta (s.handled + 1)
                (s.handled = basic)
            handled := s.handled + 1
            text := s.text ++ digits s.bias base s.delta }
        else
          s
      encodePoint basic n s' rest

/- Encode the code points of a rising list one by one. -/
def encodePoints
    (label : List Char)
    (basic n : Nat)
    (s : Encoding) :
    List Nat → Encoding
  | [] => s
  | m :: rest =>
      let s' :=
        encodePoint basic m
          { s with
            delta := s.delta + (m - n) * (s.handled + 1) }
          label
      encodePoints label basic (m + 1)
        { s' with delta := s'.delta + 1 } rest

/- Insert a number into a rising list unless it is there. -/
def insertPoint (n : Nat) : List Nat → List Nat
  | [] => [n]
  | m :: rest =>
      if n < m then n :: m :: rest
      else if n = m then m :: rest
      else m :: insertPoint n rest

/- A label in ASCII. -/
def encode (label : List Char) : List Char :=
  let ascii := label.filter fun c => c.toNat < 128
  let others :=
    (label.filter fun c => 128 ≤ c.toNat).foldl
      (fun points c => insertPoint c.toNat points) []
  let start : Encoding :=
    { delta := 0
      bias := initialBias
      handled := ascii.length
      text := if ascii = [] then [] else ascii ++ ['-'] }
  (encodePoints label ascii.length initialN start others).text

------------------------------------------------------------
-- Decoding
------------------------------------------------------------

/-
  Read the digits of one difference: its end as a number,
  and what follows it.
-/
def readDelta (bias k weight i : Nat) :
    List Char → Option (Nat × List Char)
  | [] => none
  | c :: rest =>
      match digit? c with
      | none => none
      | some d =>
          let t := threshold k bias
          let i' := i + d * weight
          if d < t then
            some (i', rest)
          else
            readDelta bias (k + base) (weight * (base - t)) i'
              rest

/- Reading a difference uses up at least one digit. -/
theorem length_readDelta_lt
    {bias k weight i j : Nat}
    {cs rest : List Char}
    (h : readDelta bias k weight i cs = some (j, rest)) :
    rest.length < cs.length := by
  induction cs generalizing k weight i with
  | nil => simp [readDelta] at h
  | cons c cs ih =>
      simp only [readDelta] at h
      split at h
      · simp at h
      · split at h
        · simp only [Option.some.injEq, Prod.mk.injEq] at h
          simp [h.2]
        · have := ih h
          simp only [List.length_cons]
          omega

/- Whether a number is a character. -/
def isScalar (n : Nat) : Bool :=
  n < 0xd800 || (0xe000 ≤ n && n < 0x110000)

/- Insert the characters that the differences stand for. -/
def insertAll
    (n i bias : Nat)
    (out : List Char)
    (cs : List Char) : Option (List Char) :=
  if cs = [] then
    some out
  else
    match _h : readDelta bias base 1 i cs with
    | none => none
    | some (j, rest) =>
        let points := out.length + 1
        let n' := n + j / points
        let place := j % points
        if isScalar n' then
          insertAll n' (place + 1)
            (adapt (j - i) points (i = 0))
            (out.take place ++ Char.ofNat n' :: out.drop place)
            rest
        else
          none
termination_by cs.length
decreasing_by exact length_readDelta_lt _h

/- Cut a list at the last hyphen that is not its first. -/
def cutLastHyphen (cs : List Char) :
    List Char × List Char :=
  let tail := (cs.reverse.takeWhile (· != '-')).reverse
  let head := cs.take (cs.length - tail.length - 1)
  if tail.length < cs.length ∧ head ≠ [] then
    (head, tail)
  else
    ([], cs)

/- The label that is written in ASCII. -/
def decode? (cs : List Char) : Option (List Char) :=
  let cut := cutLastHyphen cs
  insertAll initialN 0 initialBias cut.1 cut.2

end Punycode

end EventFeed
