/-
  This file defines blank characters, the class of Unicode
  White_Space, and trimming by that class.

  Key definitions include:
    * `isBlank`
    * `trimStart`
    * `trimEnd`
    * `trim`
    * `isBlankText`
    * `trimmed`
-/

------------------------------------------------------------
-- Blank Characters
------------------------------------------------------------

namespace EventFeed

namespace Text

/-
  The Unicode White_Space property: twenty-five characters
  in ten ranges.
-/
def isBlank (c : Char) : Bool :=
  ('\t' ≤ c && c ≤ '\r') || c == ' ' || c == '\u0085' ||
    c == '\u00a0' || c == '\u1680' ||
    ('\u2000' ≤ c && c ≤ '\u200a') || c == '\u2028' ||
    c == '\u2029' || c == '\u202f' || c == '\u205f' ||
    c == '\u3000'

------------------------------------------------------------
-- Trimming
------------------------------------------------------------

/- Drop every leading blank. -/
def trimStart (cs : List Char) : List Char :=
  cs.dropWhile isBlank

/- Drop every trailing blank. -/
def trimEnd (cs : List Char) : List Char :=
  (cs.reverse.dropWhile isBlank).reverse

/- Drop the blanks at both ends. -/
def trim (cs : List Char) : List Char :=
  trimEnd (trimStart cs)

/- A trimmed text does not start with a blank. -/
theorem not_isBlank_head_trimStart
    {cs rest : List Char}
    {c : Char}
    (h : trimStart cs = c :: rest) :
    isBlank c = false := by
  induction cs with
  | nil => simp [trimStart] at h
  | cons a tail ih =>
      by_cases ha : isBlank a = true
      · exact ih (by
          simpa [trimStart, List.dropWhile_cons, ha]
            using h)
      · simp only [trimStart, List.dropWhile_cons, ha] at h
        simp only [Bool.false_eq_true, if_false,
          List.cons.injEq] at h
        obtain ⟨rfl, -⟩ := h
        simpa using ha

/- Trimming keeps a text that starts with no blank. -/
theorem trimStart_of_not_isBlank
    {c : Char}
    (rest : List Char)
    (h : isBlank c = false) :
    trimStart (c :: rest) = c :: rest := by
  simp [trimStart, h]

/- A text is blank when it holds nothing but blanks. -/
def isBlankText (s : String) : Bool :=
  s.toList.all isBlank

/- The text without the blanks at its ends. -/
def trimmed (s : String) : String :=
  String.ofList (trim s.toList)

end Text

end EventFeed
