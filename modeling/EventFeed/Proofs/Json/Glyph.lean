import EventFeed.Json.Token

/-
  This file says how texts are spelled in JSON strings.

  A string is a row of glyphs: characters, and units given by
  their number.  A character stands for itself or follows a
  backslash in a shorter form.  A unit is a character too,
  except that two surrogates make one character together and
  a surrogate without its partner makes none.  The scanner of
  strings reads just the rows of glyphs, and its text is the
  one that they make.

  Key definitions include:
    * `Json.Glyph.Spells`
    * `Json.Glyph.SpellAll`
    * `Json.Glyph.text?`
    * `Json.OpenString.Reads`

  Key results include:
    * `Json.OpenString.text?_new`
    * `Json.Scan.foldlM_string`
    * `Json.OpenString.Reads.step`
    * `Json.OpenString.Reads.close`
-/

------------------------------------------------------------
-- Readers That May Refuse
------------------------------------------------------------

namespace EventFeed

namespace Json

section Readers

variable {α β : Type}
variable {read : β → α → Option β}
variable {state next : β}

/- Reading goes on where its first step leads. -/
theorem foldlM_cons_of_some
    {a : α}
    (hStep : read state a = some next)
    (rest : List α) :
    (a :: rest).foldlM read state = rest.foldlM read next := by
  rw [List.foldlM_cons, hStep]
  rfl

/- And where a first part leads. -/
theorem foldlM_append_of_some
    {first : List α}
    (hFirst : first.foldlM read state = some next)
    (rest : List α) :
    (first ++ rest).foldlM read state =
      rest.foldlM read next := by
  rw [List.foldlM_append, hFirst]
  rfl

end Readers

------------------------------------------------------------
-- Spellings of Texts
------------------------------------------------------------

/- What a string is made of. -/
inductive Glyph
  | char (c : Char)
  | unit (u : Nat)
deriving DecidableEq, Inhabited, Repr

namespace Glyph

/- How a glyph may be spelled. -/
inductive Spells : Glyph → List Char → Prop
  | plain
      {c : Char}
      (hControl : ¬c < ' ')
      (hQuote : c ≠ '"')
      (hSlash : c ≠ '\\') :
      Spells (.char c) [c]
  | short
      {letter c : Char}
      (hShort : OpenString.shortEscape? letter = some c) :
      Spells (.char c) ['\\', letter]
  | unit
      {digits : List Char}
      {values : List Nat}
      (hLength : digits.length = 4)
      (hValues : digits.mapM Text.hexDigit? = some values) :
      Spells (.unit (Text.ofDigits 16 values))
        ('\\' :: 'u' :: digits)

/- How a row of glyphs may be spelled. -/
inductive SpellAll : List Glyph → List Char → Prop
  | nil : SpellAll [] []
  | cons
      {g : Glyph}
      {first : List Char}
      (hFirst : g.Spells first)
      {glyphs : List Glyph}
      {rest : List Char}
      (hRest : SpellAll glyphs rest) :
      SpellAll (g :: glyphs) (first ++ rest)

/- The surrogates that come first of two. -/
def isLeading (u : Nat) : Bool :=
  decide (0xd800 ≤ u) && decide (u < 0xdc00)

/- And those that come second. -/
def isTrailing (u : Nat) : Bool :=
  decide (0xdc00 ≤ u) && decide (u < 0xe000)

/- The character that two surrogates make together. -/
def pair (u v : Nat) : Char :=
  Char.ofNat (0x10000 + (u - 0xd800) * 0x400 + (v - 0xdc00))

/-
  The text that glyphs make, if every surrogate among them
  has its partner.
-/
def text? : List Glyph → Option (List Char)
  | [] => some []
  | .char c :: rest => (text? rest).map (c :: ·)
  | .unit u :: rest =>
      if isLeading u then
        match rest with
        | .unit v :: others =>
            if isTrailing v then
              (text? others).map (pair u v :: ·)
            else
              none
        | _ => none
      else if isTrailing u then
        none
      else
        (text? rest).map (Char.ofNat u :: ·)

/- A unit that waits for no partner stands for itself. -/
theorem text?_unit
    {u : Nat}
    (hLeading : isLeading u = false)
    (rest : List Glyph) :
    text? (.unit u :: rest) =
      if isTrailing u then
        none
      else
        (text? rest).map (Char.ofNat u :: ·) := by
  rw [text?.eq_def]
  dsimp only
  rw [hLeading]
  rfl

theorem SpellAll.concat
    {glyphs : List Glyph}
    {cs : List Char}
    (hAll : SpellAll glyphs cs)
    {g : Glyph}
    {last : List Char}
    (hLast : g.Spells last) :
    SpellAll (glyphs ++ [g]) (cs ++ last) := by
  induction hAll with
  | nil =>
      rw [List.nil_append, List.nil_append,
        ← List.append_nil last]
      exact .cons hLast .nil
  | cons hFirst _ ih =>
      rw [List.cons_append, List.append_assoc]
      exact .cons hFirst ih

end Glyph

------------------------------------------------------------
-- Texts in the Making
------------------------------------------------------------

namespace OpenString

/- Take a finished glyph. -/
def take (s : OpenString) : Glyph → OpenString
  | .char c => s.push c
  | .unit u => s.pushUnit u

/- A glyph is finished without an escape left open. -/
theorem escape_take (s : OpenString) (g : Glyph) :
    (s.take g).escape = .none := by
  cases g with
  | char c => rfl
  | unit u =>
      show (s.pushUnit u).escape = .none
      unfold pushUnit
      split
      · split <;> rfl
      · repeat' split
        all_goals rfl

theorem escape_foldl
    {s : OpenString}
    (hEscape : s.escape = .none)
    (glyphs : List Glyph) :
    (glyphs.foldl take s).escape = .none := by
  induction glyphs generalizing s with
  | nil => exact hEscape
  | cons g glyphs ih => exact ih (s.escape_take g)

/-
  The text that further glyphs make, after what a string in
  the making waits for.
-/
def later? (s : OpenString) (glyphs : List Glyph) :
    Option (List Char) :=
  if s.paired then
    match s.leading with
    | none => Glyph.text? glyphs
    | some u => Glyph.text? (.unit u :: glyphs)
  else
    none

/- A unit after a leading surrogate must be its partner. -/
theorem take_unit_of_leading
    {s : OpenString}
    {high : Nat}
    (hWaiting : s.leading = some high)
    (u : Nat) :
    s.take (.unit u) =
      if Glyph.isTrailing u then
        ⟨Glyph.pair high u :: s.chars, none, s.paired, .none⟩
      else
        ⟨s.chars, none, false, .none⟩ := by
  simp [take, pushUnit, hWaiting, Glyph.isTrailing, Glyph.pair]

/- Any other unit makes a character, or waits, or is alone. -/
theorem take_unit_of_none
    {s : OpenString}
    (hWaiting : s.leading = none)
    (u : Nat) :
    s.take (.unit u) =
      if Glyph.isLeading u then
        ⟨s.chars, some u, s.paired, .none⟩
      else if Glyph.isTrailing u then
        ⟨s.chars, none, false, .none⟩
      else
        ⟨Char.ofNat u :: s.chars, none, s.paired, .none⟩ := by
  simp [take, pushUnit, hWaiting, Glyph.isLeading,
    Glyph.isTrailing]

/- A glyph adds to the text what it makes, before the rest. -/
theorem later?_cons
    {s : OpenString}
    (hLeading : ∀ u ∈ s.leading, Glyph.isLeading u = true)
    (g : Glyph)
    (glyphs : List Glyph) :
    (∀ u ∈ (s.take g).leading, Glyph.isLeading u = true) ∧
      ((s.take g).later? glyphs).map
          ((s.take g).chars.reverse ++ ·) =
        (s.later? (g :: glyphs)).map
          (s.chars.reverse ++ ·) := by
  cases hWaiting : s.leading with
  | some high =>
      -- a waiting surrogate stands before the glyphs to come
      have hHigh := hLeading high hWaiting
      cases g with
      | char c =>
          simp [take, push, later?, hWaiting, Glyph.text?, hHigh]
      | unit u =>
          rw [take_unit_of_leading hWaiting]
          cases hTrailing : Glyph.isTrailing u <;>
            cases hPaired : s.paired <;>
            simp [later?, hWaiting, hPaired, Glyph.text?, hHigh,
              hTrailing, Function.comp_def]
  | none =>
      cases g with
      | char c =>
          cases hPaired : s.paired <;>
            simp [take, push, later?, hWaiting, hPaired,
              Glyph.text?, Function.comp_def]
      | unit u =>
          rw [take_unit_of_none hWaiting]
          cases hLead : Glyph.isLeading u with
          | true => simp [later?, hWaiting, hLead]
          | false =>
              have hText := Glyph.text?_unit hLead glyphs
              cases hTrailing : Glyph.isTrailing u <;>
                cases hPaired : s.paired <;>
                simp [later?, hWaiting, hPaired, hText,
                  hTrailing, Function.comp_def]

/- A finished string spells the text that its glyphs make. -/
theorem text?_foldl
    {s : OpenString}
    (hLeading : ∀ u ∈ s.leading, Glyph.isLeading u = true)
    (glyphs : List Glyph) :
    (glyphs.foldl take s).text? =
      ((s.later? glyphs).map
        (s.chars.reverse ++ ·)).map String.ofList := by
  induction glyphs generalizing s with
  | nil =>
      rw [List.foldl_nil]
      cases hPaired : s.paired with
      | false => simp [text?, later?, hPaired]
      | true =>
          cases hWaiting : s.leading with
          | none =>
              simp [text?, later?, hPaired, hWaiting,
                Glyph.text?]
          | some u =>
              simp [text?, later?, hPaired, hWaiting,
                Glyph.text?, hLeading u hWaiting]
  | cons g glyphs ih =>
      rcases later?_cons hLeading g glyphs with ⟨hNext, hSame⟩
      rw [List.foldl_cons, ih hNext, hSame]

/- So a string spells the text of all its glyphs. -/
theorem text?_new (glyphs : List Glyph) :
    (glyphs.foldl take new).text? =
      (Glyph.text? glyphs).map String.ofList := by
  rw [text?_foldl (by simp [new])]
  simp [later?, new]

------------------------------------------------------------
-- Strings in the Scanner
------------------------------------------------------------

/- A scanner inside a string follows the string. -/
theorem scan_step
    {s next : OpenString}
    {c : Char}
    (hStep : s.step c = some (some next))
    (tokens : List Token) :
    Scan.step ⟨tokens, .string s⟩ c =
      some ⟨tokens, .string next⟩ := by
  simp [Scan.step, hStep]

/- The digits of a unit are read one after the other. -/
theorem foldlM_digits
    {digits : List Char}
    {values : List Nat}
    (hValues : digits.mapM Text.hexDigit? = some values)
    (hSome : digits ≠ [])
    (s : OpenString)
    (value : Nat)
    (tokens : List Token) :
    digits.foldlM Scan.step
        ⟨tokens,
          .string { s with escape := .hex digits.length value }⟩ =
      some
        ⟨tokens,
          .string
            (s.pushUnit
              (values.foldl (fun n d => n * 16 + d) value))⟩ := by
  induction digits generalizing values value with
  | nil => exact absurd rfl hSome
  | cons c digits ih =>
      rw [List.mapM_cons] at hValues
      rcases Option.bind_eq_some_iff.mp hValues with
        ⟨d, hDigit, hMore⟩
      rcases Option.bind_eq_some_iff.mp hMore with
        ⟨others, hOthers, hValue⟩
      obtain rfl := Option.some.inj hValue
      rw [List.foldl_cons]
      cases digits with
      | nil =>
          obtain rfl := Option.some.inj hOthers
          simp only [List.foldlM_cons, Scan.step, step, hDigit,
            List.length_singleton, Option.map_some]
          rfl
      | cons c' digits =>
          have hStep :
              step
                { s with
                  escape := .hex (c :: c' :: digits).length value }
                c =
              some
                (some
                  { s with
                    escape :=
                      .hex (c' :: digits).length
                        (value * 16 + d) }) := by
            simp [step, hDigit]
          rw [foldlM_cons_of_some (scan_step hStep _)]
          exact ih hOthers (List.cons_ne_nil _ _) _

/- A glyph is read to its end. -/
theorem foldlM_glyph
    {g : Glyph}
    {cs : List Char}
    (hSpells : g.Spells cs)
    {s : OpenString}
    (hEscape : s.escape = .none)
    (tokens : List Token) :
    cs.foldlM Scan.step ⟨tokens, .string s⟩ =
      some ⟨tokens, .string (s.take g)⟩ := by
  have hSlash :
      s.step '\\' = some (some { s with escape := .slash }) := by
    simp [step, hEscape]
  cases hSpells with
  | plain hControl hQuote hSlash =>
      simp [Scan.step, step, hEscape, hControl, hQuote, hSlash,
        take]
  | @short letter c hShort =>
      have hLetter : letter ≠ 'u' := by
        rintro rfl
        contradiction
      rw [foldlM_cons_of_some (scan_step hSlash _)]
      simp [Scan.step, step, hLetter, hShort, take, push]
  | @unit digits values hLength hValues =>
      have hMark :
          step { s with escape := .slash } 'u' =
            some
              (some
                { s with escape := .hex digits.length 0 }) := by
        simp [step, hLength]
      have hSome : digits ≠ [] := by
        rintro rfl
        contradiction
      rw [foldlM_cons_of_some (scan_step hSlash _),
        foldlM_cons_of_some (scan_step hMark _)]
      exact foldlM_digits hValues hSome s 0 tokens

end OpenString

/- A row of glyphs is read to its end. -/
theorem Scan.foldlM_string
    {glyphs : List Glyph}
    {cs : List Char}
    (hAll : Glyph.SpellAll glyphs cs)
    {s : OpenString}
    (hEscape : s.escape = .none)
    (tokens : List Token) :
    cs.foldlM Scan.step ⟨tokens, .string s⟩ =
      some ⟨tokens, .string (glyphs.foldl OpenString.take s)⟩ := by
  induction hAll generalizing s with
  | nil => rfl
  | cons hFirst _ ih =>
      rw [foldlM_append_of_some
        (OpenString.foldlM_glyph hFirst hEscape tokens)]
      exact ih (s.escape_take _)

------------------------------------------------------------
-- What a String in the Making Has Read
------------------------------------------------------------

namespace OpenString

/-
  What a string in the making has read: finished glyphs, and
  perhaps the start of an escape.
-/
inductive Reads : OpenString → List Char → Prop
  | whole
      {glyphs : List Glyph}
      {cs : List Char}
      (hAll : Glyph.SpellAll glyphs cs) :
      Reads (glyphs.foldl take new) cs
  | slash
      {glyphs : List Glyph}
      {cs : List Char}
      (hAll : Glyph.SpellAll glyphs cs) :
      Reads { glyphs.foldl take new with escape := .slash }
        (cs ++ ['\\'])
  | hex
      {glyphs : List Glyph}
      {cs digits : List Char}
      {values : List Nat}
      {left : Nat}
      (hAll : Glyph.SpellAll glyphs cs)
      (hLength : digits.length + left = 4)
      (hLeft : 0 < left)
      (hValues : digits.mapM Text.hexDigit? = some values) :
      Reads
        { glyphs.foldl take new with
          escape := .hex left (Text.ofDigits 16 values) }
        (cs ++ '\\' :: 'u' :: digits)

/- Only a quote after finished glyphs ends a string. -/
theorem Reads.close
    {s : OpenString}
    {cs : List Char}
    (hReads : s.Reads cs)
    {c : Char}
    (hStep : s.step c = some none) :
    c = '"' ∧
      ∃ glyphs, Glyph.SpellAll glyphs cs ∧
        s = glyphs.foldl take new := by
  cases hReads with
  | @whole glyphs _ hAll =>
      have hEscape := escape_foldl (s := new) rfl glyphs
      simp only [OpenString.step, hEscape] at hStep
      split at hStep
      · next hQuote => exact ⟨hQuote, glyphs, hAll, rfl⟩
      · split at hStep
        · cases hStep
        · split at hStep <;> cases hStep
  | slash hAll =>
      simp only [OpenString.step] at hStep
      split at hStep
      · cases hStep
      · simp at hStep
  | hex hAll hLength hLeft hValues =>
      rcases Option.map_eq_some_iff.mp hStep with ⟨d, _, hNone⟩
      dsimp only at hNone
      split at hNone <;> cases hNone

/- Any other character adds to what was read. -/
theorem Reads.step
    {s s' : OpenString}
    {cs : List Char}
    (hReads : s.Reads cs)
    {c : Char}
    (hStep : s.step c = some (some s')) :
    s'.Reads (cs ++ [c]) := by
  cases hReads with
  | @whole glyphs _ hAll =>
      have hEscape := escape_foldl (s := new) rfl glyphs
      simp only [OpenString.step, hEscape] at hStep
      split at hStep
      · cases hStep
      · next hQuote =>
        split at hStep
        · next hSlash =>
          obtain rfl := Option.some.inj (Option.some.inj hStep)
          rw [hSlash]
          exact .slash hAll
        · next hSlash =>
          split at hStep
          · cases hStep
          · next hControl =>
            obtain rfl := Option.some.inj (Option.some.inj hStep)
            have hMore :=
              hAll.concat (.plain hControl hQuote hSlash)
            simpa [take] using Reads.whole hMore
  | @slash glyphs cs hAll =>
      simp only [OpenString.step] at hStep
      split at hStep
      · next hUnit =>
        obtain rfl := Option.some.inj (Option.some.inj hStep)
        have hNone :
            ([] : List Char).mapM Text.hexDigit? = some [] :=
          rfl
        have hMark : Text.ofDigits 16 [] = 0 := rfl
        have hOpen :
            Reads
              { glyphs.foldl take new with
                escape := .hex 4 (Text.ofDigits 16 []) }
              (cs ++ ['\\', 'u']) :=
          .hex hAll rfl (by decide) hNone
        simpa [hUnit, hMark] using hOpen
      · rcases Option.map_eq_some_iff.mp hStep with
          ⟨d, hShort, hNext⟩
        obtain rfl := Option.some.inj hNext
        have hMore := hAll.concat (.short hShort)
        simpa [take, push] using Reads.whole hMore
  | @hex glyphs cs digits values left hAll hLength hLeft hValues =>
      rcases Option.map_eq_some_iff.mp hStep with
        ⟨d, hDigit, hNext⟩
      have hValues' :
          (digits ++ [c]).mapM Text.hexDigit? =
            some (values ++ [d]) := by
        simp [hValues, hDigit]
      have hValue :
          Text.ofDigits 16 values * 16 + d =
            Text.ofDigits 16 (values ++ [d]) := by
        simp [Text.ofDigits]
      have hLength' :
          (digits ++ [c]).length = digits.length + 1 := by
        simp
      dsimp only at hNext
      rw [hValue] at hNext
      split at hNext
      · next hLast =>
        obtain rfl := Option.some.inj hNext
        have hMore := hAll.concat (.unit (by omega) hValues')
        simpa [take, pushUnit] using Reads.whole hMore
      · next hLast =>
        obtain rfl := Option.some.inj hNext
        have hOpen : 0 < left - 1 := by omega
        have hFour : (digits ++ [c]).length + (left - 1) = 4 := by
          omega
        simpa using Reads.hex hAll hFour hOpen hValues'

end OpenString

end Json

end EventFeed
