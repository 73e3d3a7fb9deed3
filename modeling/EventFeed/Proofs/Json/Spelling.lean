import EventFeed.Proofs.Json.Glyph
import EventFeed.Proofs.Json.Number
import Mathlib.Data.List.Chain

/-
  This file says which texts spell a row of JSON tokens.

  A token is a mark of one character or a scalar, and blanks
  may stand around any of them.  Scanning finds only rows that
  the text spells, and it finds each such row in which no
  scalar follows another, as two numbers in a row would read
  as one.  A text whose last token is a mark may be followed
  by another: their tokens are then found one after the other.

  Key definitions include:
    * `Json.Scalar.Spells`
    * `Json.Token.Spells`
    * `Json.Token.SpellAll`
    * `Json.Scan.Reads`

  Key results include:
    * `Json.Token.spellAll_of_scan?`
    * `Json.Token.scan?_of_spellAll`
    * `Json.Token.scan?_append`
-/

------------------------------------------------------------
-- Spellings of Tokens
------------------------------------------------------------

namespace EventFeed

namespace Json

/- How a scalar may be spelled. -/
inductive Scalar.Spells : Scalar → List Char → Prop
  | null : Spells .null "null".toList
  | true : Spells (.bool Bool.true) "true".toList
  | false : Spells (.bool Bool.false) "false".toList
  | number
      {n : Number}
      {cs : List Char}
      (hNumber : n.Spells cs) :
      Spells (.number n) cs
  | string
      {glyphs : List Glyph}
      {cs : List Char}
      (hAll : Glyph.SpellAll glyphs cs) :
      Spells (.string ((Glyph.text? glyphs).map String.ofList))
        ('"' :: (cs ++ ['"']))

/- A scalar starts with neither a blank nor a mark. -/
theorem Scalar.Spells.head
    {s : Scalar}
    {cs : List Char}
    (hSpells : s.Spells cs) :
    ∃ c rest,
      cs = c :: rest ∧ Scan.isSpace c = Bool.false ∧
        Scan.mark? c = Option.none := by
  cases hSpells with
  | null => exact ⟨'n', _, rfl, rfl, rfl⟩
  | true => exact ⟨'t', _, rfl, rfl, rfl⟩
  | false => exact ⟨'f', _, rfl, rfl, rfl⟩
  | string hAll => exact ⟨'"', _, rfl, rfl, rfl⟩
  | number hNumber =>
      rcases hNumber.head with ⟨c, rest, rfl, rfl | hDigit⟩
      · exact ⟨'-', rest, rfl, rfl, rfl⟩
      · refine ⟨c, rest, rfl, ?_, ?_⟩
        · by_contra hSpace
          simp only [Scan.isSpace, Bool.not_eq_false,
            Bool.or_eq_true, beq_iff_eq] at hSpace
          rcases hSpace with ((rfl | rfl) | rfl) | rfl
          all_goals contradiction
        · unfold Scan.mark?
          split
          case h_7 => rfl
          all_goals contradiction

/- Only blanks. -/
def IsBlanks (cs : List Char) : Prop :=
  ∀ c ∈ cs, Scan.isSpace c = true

namespace Token

/- How a token may be spelled. -/
inductive Spells : Token → List Char → Prop
  | mark
      {c : Char}
      {t : Token}
      (hMark : Scan.mark? c = some t) :
      Spells t [c]
  | scalar
      {s : Scalar}
      {cs : List Char}
      (hScalar : s.Spells cs) :
      Spells (.scalar s) cs

/- How a row of tokens may be spelled. -/
inductive SpellAll : List Token → List Char → Prop
  | done
      {blanks : List Char}
      (hBlanks : IsBlanks blanks) :
      SpellAll [] blanks
  | next
      {blanks : List Char}
      (hBlanks : IsBlanks blanks)
      {t : Token}
      {first : List Char}
      (hFirst : t.Spells first)
      {tokens : List Token}
      {rest : List Char}
      (hRest : SpellAll tokens rest) :
      SpellAll (t :: tokens) (blanks ++ (first ++ rest))

/- Whether the token is a value without parts. -/
def isScalar : Token → Bool
  | .scalar _ => true
  | _ => false

/- No scalar follows another. -/
def IsSpread (tokens : List Token) : Prop :=
  tokens.IsChain fun t u =>
    t.isScalar = true → u.isScalar = false

variable {t : Token}
variable {tokens others : List Token}
variable {cs ds : List Char}

theorem SpellAll.blanks
    (hBlanks : IsBlanks cs)
    (hAll : SpellAll tokens ds) :
    SpellAll tokens (cs ++ ds) := by
  cases hAll with
  | done hMore =>
      refine .done fun c hMember => ?_
      rcases List.mem_append.mp hMember with hIn | hIn
      · exact hBlanks c hIn
      · exact hMore c hIn
  | next hMore hFirst hRest =>
      rw [← List.append_assoc]
      refine .next (fun c hMember => ?_) hFirst hRest
      rcases List.mem_append.mp hMember with hIn | hIn
      · exact hBlanks c hIn
      · exact hMore c hIn

theorem SpellAll.append
    (hAll : SpellAll tokens cs)
    (hOthers : SpellAll others ds) :
    SpellAll (tokens ++ others) (cs ++ ds) := by
  induction hAll with
  | done hBlanks => exact hOthers.blanks hBlanks
  | next hBlanks hFirst _ ih =>
      rw [List.append_assoc, List.append_assoc]
      exact .next hBlanks hFirst ih

theorem SpellAll.nil : SpellAll [] [] :=
  .done (by simp [IsBlanks])

/- No blank need stand before a token. -/
theorem SpellAll.cons
    (hFirst : t.Spells cs)
    (hRest : SpellAll tokens ds) :
    SpellAll (t :: tokens) (cs ++ ds) := by
  have hNone : IsBlanks [] := by simp [IsBlanks]
  exact .next hNone hFirst hRest

theorem Spells.all (hSpells : t.Spells cs) :
    SpellAll [t] cs := by
  simpa using SpellAll.cons hSpells .nil

/- No scalar is a mark. -/
theorem isScalar_of_mark?
    {c : Char}
    (hMark : Scan.mark? c = some t) :
    t.isScalar = false := by
  unfold Scan.mark? at hMark
  split at hMark
  case h_7 => contradiction
  all_goals
    obtain rfl := Option.some.inj hMark
    rfl

/- The first mark or scalar tells the first token. -/
theorem SpellAll.head
    (hAll : SpellAll (t :: tokens) cs) :
    ∃ c rest,
      cs.dropWhile Scan.isSpace = c :: rest ∧
        ((Scan.mark? c).isNone = t.isScalar) := by
  cases hAll with
  | next hBlanks hFirst hRest =>
      rw [List.dropWhile_append_of_pos hBlanks]
      cases hFirst with
      | @mark c _ hMark =>
          have hOther : ¬Scan.isSpace c = true := by
            unfold Scan.mark? at hMark
            split at hMark
            case h_7 => contradiction
            all_goals decide
          refine ⟨c, _, List.dropWhile_cons_of_neg hOther, ?_⟩
          rw [hMark, isScalar_of_mark? hMark]
          rfl
      | scalar hScalar =>
          rcases hScalar.head with ⟨c, rest, rfl, hOther, hNone⟩
          have hOther' : ¬Scan.isSpace c = true := by
            rw [hOther]
            exact Bool.false_ne_true
          refine ⟨c, _, List.dropWhile_cons_of_neg hOther', ?_⟩
          rw [hNone]
          rfl

/- Each token is spelled by a part of the text. -/
theorem SpellAll.exists_spells
    (hAll : SpellAll tokens cs)
    (hMember : t ∈ tokens) :
    ∃ part, t.Spells part := by
  induction hAll with
  | done _ => cases hMember
  | next _ hFirst _ ih =>
      rcases List.mem_cons.mp hMember with rfl | hRest
      · exact ⟨_, hFirst⟩
      · exact ih hRest

/- So every number in a text is proper. -/
theorem SpellAll.isProper
    (hAll : SpellAll tokens cs)
    {n : Number}
    (hMember : .scalar (.number n) ∈ tokens) :
    n.IsProper := by
  rcases hAll.exists_spells hMember with ⟨part, hSpells⟩
  cases hSpells with
  | mark hMark => cases isScalar_of_mark? hMark
  | scalar hScalar =>
      cases hScalar with
      | number hNumber => exact hNumber.proper

/- A text without tokens is blank. -/
theorem SpellAll.isBlanks (hAll : SpellAll [] cs) :
    IsBlanks cs := by
  cases hAll with
  | done hBlanks => exact hBlanks

end Token

------------------------------------------------------------
-- Ends of Tokens
------------------------------------------------------------

namespace Scan

/-
  The tokens so far (last first) with the one in the making,
  if that one may end here.
-/
def close? (scan : Scan) : Option (List Token) :=
  match scan.mode with
  | .between => some scan.tokens
  | .string _ => none
  | .number cs =>
      (Number.ofChars? cs.reverse).map fun n =>
        .scalar (.number n) :: scan.tokens
  | .word cs =>
      (word? cs.reverse).map fun s => .scalar s :: scan.tokens

/- Whether a character belongs to the token in the making. -/
def continues (scan : Scan) (c : Char) : Bool :=
  match scan.mode with
  | .between => false
  | .string _ => true
  | .number _ => isNumberChar c
  | .word _ => isWordChar c

theorem finish?_eq_close? (scan : Scan) :
    scan.finish? = scan.close?.map List.reverse := by
  rcases scan with ⟨tokens, mode⟩
  cases mode <;> simp [finish?, close?, Function.comp_def]

/- Any other character ends it and starts the next one. -/
theorem step_of_not_continues
    {scan : Scan}
    {c : Char}
    (hOther : scan.continues c = false) :
    scan.step c = scan.close?.bind (begin · c) := by
  rcases scan with ⟨tokens, mode⟩
  cases mode with
  | between => rfl
  | string s => cases hOther
  | number cs =>
      have hOther' : ¬isNumberChar c = true := by
        simpa [continues] using hOther
      rw [close?, Option.bind_map]
      exact if_neg hOther'
  | word cs =>
      have hOther' : ¬isWordChar c = true := by
        simpa [continues] using hOther
      rw [close?, Option.bind_map]
      exact if_neg hOther'

/- A scanner at a mark has nothing in the making. -/
theorem eq_of_close?
    {scan : Scan}
    {t : Token}
    {tokens : List Token}
    (hClose : scan.close? = some (t :: tokens))
    (hMark : t.isScalar = false) :
    scan = ⟨t :: tokens, .between⟩ := by
  rcases scan with ⟨before, mode⟩
  cases mode with
  | between =>
      obtain rfl := Option.some.inj hClose
      rfl
  | string s => cases hClose
  | number cs =>
      rcases Option.map_eq_some_iff.mp hClose with ⟨n, _, hSame⟩
      obtain ⟨rfl, _⟩ := List.cons.inj hSame
      cases hMark
  | word cs =>
      rcases Option.map_eq_some_iff.mp hClose with ⟨s, _, hSame⟩
      obtain ⟨rfl, _⟩ := List.cons.inj hSame
      cases hMark

/- A word has the value that it spells. -/
theorem spells_of_word?
    {cs : List Char}
    {s : Scalar}
    (hWord : word? cs = some s) :
    s.Spells cs := by
  unfold word? at hWord
  split at hWord
  · next hTrue =>
    obtain rfl := Option.some.inj hWord
    rw [hTrue]
    exact .true
  · split at hWord
    · next hFalse =>
      obtain rfl := Option.some.inj hWord
      rw [hFalse]
      exact .false
    · split at hWord
      · next hNull =>
        obtain rfl := Option.some.inj hWord
        rw [hNull]
        exact .null
      · contradiction

------------------------------------------------------------
-- What the Scanner Has Read
------------------------------------------------------------

/-
  What a scanner has read: finished tokens, and perhaps the
  start of another.
-/
inductive Reads : Scan → List Char → Prop
  | between
      {tokens : List Token}
      {cs : List Char}
      (hAll : Token.SpellAll tokens.reverse cs) :
      Reads ⟨tokens, .between⟩ cs
  | string
      {tokens : List Token}
      {cs inner : List Char}
      {s : OpenString}
      (hAll : Token.SpellAll tokens.reverse cs)
      (hInner : s.Reads inner) :
      Reads ⟨tokens, .string s⟩ (cs ++ '"' :: inner)
  | number
      {tokens : List Token}
      {cs digits : List Char}
      (hAll : Token.SpellAll tokens.reverse cs) :
      Reads ⟨tokens, .number digits⟩ (cs ++ digits.reverse)
  | word
      {tokens : List Token}
      {cs letters : List Char}
      (hAll : Token.SpellAll tokens.reverse cs) :
      Reads ⟨tokens, .word letters⟩ (cs ++ letters.reverse)

/- A finished token joins those before it. -/
theorem spellAll_cons
    {tokens : List Token}
    {cs : List Char}
    (hAll : Token.SpellAll tokens.reverse cs)
    {t : Token}
    {last : List Char}
    (hLast : t.Spells last) :
    Token.SpellAll (t :: tokens).reverse (cs ++ last) := by
  rw [List.reverse_cons]
  exact hAll.append hLast.all

/- The tokens at the end are those that the text spells. -/
theorem Reads.close
    {scan : Scan}
    {cs : List Char}
    (hReads : scan.Reads cs)
    {tokens : List Token}
    (hClose : scan.close? = some tokens) :
    Token.SpellAll tokens.reverse cs := by
  cases hReads with
  | between hAll =>
      obtain rfl := Option.some.inj hClose
      exact hAll
  | string hAll hInner => cases hClose
  | number hAll =>
      rcases Option.map_eq_some_iff.mp hClose with
        ⟨n, hNumber, rfl⟩
      have hSpells := Number.ofChars?_eq_some_iff.mp hNumber
      exact spellAll_cons hAll (.scalar (.number hSpells))
  | word hAll =>
      rcases Option.map_eq_some_iff.mp hClose with
        ⟨s, hWord, rfl⟩
      exact spellAll_cons hAll (.scalar (spells_of_word? hWord))

/- A character starts a token, or is one, or is a blank. -/
theorem Reads.begin
    {tokens : List Token}
    {cs : List Char}
    (hAll : Token.SpellAll tokens.reverse cs)
    {c : Char}
    {scan : Scan}
    (hBegin : begin tokens c = some scan) :
    scan.Reads (cs ++ [c]) := by
  unfold Scan.begin at hBegin
  split at hBegin
  · next hSpace =>
    obtain rfl := Option.some.inj hBegin
    have hBlank : IsBlanks [c] := by simpa [IsBlanks] using hSpace
    refine .between ?_
    simpa using hAll.append (.done hBlank)
  · split at hBegin
    · next hQuote =>
      obtain rfl := Option.some.inj hBegin
      rw [hQuote]
      exact .string hAll (.whole .nil)
    · split at hBegin
      · obtain rfl := Option.some.inj hBegin
        exact .number hAll
      · split at hBegin
        · obtain rfl := Option.some.inj hBegin
          exact .word hAll
        · rcases Option.map_eq_some_iff.mp hBegin with
            ⟨t, hMark, rfl⟩
          exact .between (spellAll_cons hAll (.mark hMark))

/- Each character adds to what was read. -/
theorem Reads.step
    {scan : Scan}
    {cs : List Char}
    (hReads : scan.Reads cs)
    {c : Char}
    {next : Scan}
    (hStep : scan.step c = some next) :
    next.Reads (cs ++ [c]) := by
  cases hContinues : scan.continues c with
  | false =>
      -- the token in the making ends before the character
      rw [step_of_not_continues hContinues] at hStep
      rcases Option.bind_eq_some_iff.mp hStep with
        ⟨tokens, hClose, hBegin⟩
      exact Reads.begin (hReads.close hClose) hBegin
  | true =>
      cases hReads with
      | between hAll => cases hContinues
      | string hAll hInner =>
          rw [List.append_assoc, List.cons_append]
          rcases Option.map_eq_some_iff.mp hStep with
            ⟨inner, hString, rfl⟩
          cases inner with
          | some s => exact .string hAll (hInner.step hString)
          | none =>
              rcases hInner.close hString with
                ⟨rfl, glyphs, hGlyphs, rfl⟩
              have hSpells := Scalar.Spells.string hGlyphs
              rw [← OpenString.text?_new] at hSpells
              exact .between (spellAll_cons hAll (.scalar hSpells))
      | @number tokens before digits hAll =>
          have hNumber : isNumberChar c = true := hContinues
          simp only [Scan.step, hNumber, if_true] at hStep
          obtain rfl := Option.some.inj hStep
          rw [List.append_assoc, ← List.reverse_cons]
          exact .number hAll
      | @word tokens before letters hAll =>
          have hWord : isWordChar c = true := hContinues
          simp only [Scan.step, hWord, if_true] at hStep
          obtain rfl := Option.some.inj hStep
          rw [List.append_assoc, ← List.reverse_cons]
          exact .word hAll

/- And so does a text. -/
theorem Reads.fold
    {scan : Scan}
    {cs more : List Char}
    (hReads : scan.Reads cs)
    {last : Scan}
    (hFold : more.foldlM Scan.step scan = some last) :
    last.Reads (cs ++ more) := by
  induction more generalizing scan cs with
  | nil =>
      obtain rfl := Option.some.inj hFold
      rwa [List.append_nil]
  | cons c more ih =>
      rw [List.foldlM_cons] at hFold
      rcases Option.bind_eq_some_iff.mp hFold with
        ⟨next, hStep, hRest⟩
      have hNext := ih (hReads.step hStep) hRest
      rwa [List.append_assoc] at hNext

end Scan

/- Scanning finds tokens that the text spells. -/
theorem Token.spellAll_of_scan?
    {tokens : List Token}
    {cs : List Char}
    (hScan : Token.scan? cs = some tokens) :
    Token.SpellAll tokens cs := by
  rcases Option.bind_eq_some_iff.mp hScan with
    ⟨last, hFold, hFinish⟩
  rw [Scan.finish?_eq_close?] at hFinish
  rcases Option.map_eq_some_iff.mp hFinish with
    ⟨reversed, hClose, rfl⟩
  have hStart : Scan.Reads ⟨[], .between⟩ [] := .between .nil
  exact (hStart.fold hFold).close hClose

------------------------------------------------------------
-- What the Scanner Finds
------------------------------------------------------------

namespace Scan

variable {scan : Scan}
variable {c : Char}
variable {done tokens : List Token}
variable {cs : List Char}

/- Neither blanks nor marks go on with a number or a word. -/
theorem not_continues
    (hClose : scan.close? = some done)
    (hNumber : isNumberChar c = false)
    (hWord : isWordChar c = false) :
    scan.step c = begin done c := by
  have hOther : scan.continues c = false := by
    rcases scan with ⟨before, mode⟩
    cases mode with
    | between => rfl
    | string s => cases hClose
    | number cs => exact hNumber
    | word cs => exact hWord
  rw [step_of_not_continues hOther, hClose]
  rfl

/- A blank ends a token. -/
theorem step_blank
    (hClose : scan.close? = some done)
    (hSpace : isSpace c = true) :
    scan.step c = some ⟨done, .between⟩ := by
  have hBegin : begin done c = some ⟨done, .between⟩ := by
    rw [begin, if_pos hSpace]
  rw [← hBegin]
  simp only [isSpace, Bool.or_eq_true, beq_iff_eq] at hSpace
  rcases hSpace with ((rfl | rfl) | rfl) | rfl
  all_goals exact not_continues hClose rfl rfl

/- So does a mark, which is a token itself. -/
theorem step_mark
    {t : Token}
    (hClose : scan.close? = some done)
    (hMark : mark? c = some t) :
    scan.step c = some ⟨t :: done, .between⟩ := by
  unfold mark? at hMark
  split at hMark
  case h_7 => contradiction
  all_goals
    obtain rfl := Option.some.inj hMark
    exact not_continues hClose rfl rfl

/- Blanks change nothing but where the last token ends. -/
theorem foldlM_blanks
    (hBlanks : IsBlanks cs)
    (hClose : scan.close? = some done) :
    ∃ last,
      cs.foldlM step scan = some last ∧
        last.close? = some done ∧
        (scan.mode = .between → last.mode = .between) := by
  induction cs generalizing scan with
  | nil => exact ⟨scan, rfl, hClose, id⟩
  | cons c cs ih =>
      rw [IsBlanks, List.forall_mem_cons] at hBlanks
      have hNext : close? ⟨done, .between⟩ = some done := rfl
      rcases ih hBlanks.2 hNext with ⟨last, hFold, hLast, hMode⟩
      rw [foldlM_cons_of_some (step_blank hClose hBlanks.1)]
      exact ⟨last, hFold, hLast, fun _ => hMode rfl⟩

/- The characters of a number are taken together. -/
theorem foldlM_number
    (hChars : ∀ c ∈ cs, isNumberChar c = true)
    (before : List Char) :
    cs.foldlM step ⟨tokens, .number before⟩ =
      some ⟨tokens, .number (cs.reverse ++ before)⟩ := by
  induction cs generalizing before with
  | nil => rfl
  | cons c cs ih =>
      rw [List.forall_mem_cons] at hChars
      have hStep :
          step ⟨tokens, .number before⟩ c =
            some ⟨tokens, .number (c :: before)⟩ := by
        simp [step, hChars.1]
      rw [foldlM_cons_of_some hStep, ih hChars.2]
      simp

/- A minus or a digit starts a number. -/
theorem begin_number
    (hFirst : c = '-' ∨ isDigit c = true) :
    begin tokens c = some ⟨tokens, .number [c]⟩ := by
  have hSpace : ¬isSpace c = true := by
    rcases hFirst with rfl | hDigit
    · decide
    · intro hSpace
      simp only [isSpace, Bool.or_eq_true, beq_iff_eq]
        at hSpace
      rcases hSpace with ((rfl | rfl) | rfl) | rfl
      all_goals contradiction
  have hQuote : c ≠ '"' := by
    rintro rfl
    revert hFirst
    decide
  rw [begin, if_neg hSpace, if_neg hQuote, if_pos hFirst]

/- A scalar between tokens is read to its end. -/
theorem foldlM_scalar
    {s : Scalar}
    (hSpells : s.Spells cs) :
    ∃ last,
      cs.foldlM step ⟨tokens, .between⟩ = some last ∧
        last.close? = some (.scalar s :: tokens) := by
  cases hSpells with
  | null => exact ⟨⟨tokens, .word ['l', 'l', 'u', 'n']⟩, rfl, rfl⟩
  | true => exact ⟨⟨tokens, .word ['e', 'u', 'r', 't']⟩, rfl, rfl⟩
  | false =>
      exact
        ⟨⟨tokens, .word ['e', 's', 'l', 'a', 'f']⟩, rfl, rfl⟩
  | @number n _ hNumber =>
      have hChars := hNumber.isNumberChar
      have hValue := Number.ofChars?_eq_some_iff.mpr hNumber
      rcases hNumber.head with ⟨c, rest, rfl, hFirst⟩
      rw [List.forall_mem_cons] at hChars
      refine
        ⟨⟨tokens, .number (rest.reverse ++ [c])⟩, ?_, ?_⟩
      · have hStart :
            step ⟨tokens, .between⟩ c =
              some ⟨tokens, .number [c]⟩ :=
          begin_number hFirst
        rw [foldlM_cons_of_some hStart]
        exact foldlM_number hChars.2 [c]
      · simp [close?, hValue]
  | @string glyphs inner hAll =>
      have hText := OpenString.text?_new glyphs
      have hEscape :=
        OpenString.escape_foldl (s := OpenString.new) rfl glyphs
      have hOpen :
          step ⟨tokens, .between⟩ '"' =
            some ⟨tokens, .string OpenString.new⟩ :=
        rfl
      refine ⟨⟨.scalar (.string _) :: tokens, .between⟩, ?_, rfl⟩
      rw [foldlM_cons_of_some hOpen,
        foldlM_append_of_some (foldlM_string hAll rfl tokens)]
      simp [step, OpenString.step, hEscape, hText]

/- A row in which no scalar follows another is found. -/
theorem foldlM_spellAll
    (hAll : Token.SpellAll tokens cs)
    (hSpread : Token.IsSpread tokens)
    (hClose : scan.close? = some done)
    (hFirst :
      ∀ t ∈ tokens.head?,
        t.isScalar = true → scan.mode = .between) :
    ∃ last,
      cs.foldlM step scan = some last ∧
        last.close? = some (tokens.reverse ++ done) := by
  induction hAll generalizing scan done with
  | done hBlanks =>
      rcases foldlM_blanks hBlanks hClose with
        ⟨last, hFold, hLast, _⟩
      exact ⟨last, hFold, hLast⟩
  | @next blanks hBlanks t first hSpells tokens rest _ ih =>
      rcases foldlM_blanks hBlanks hClose with
        ⟨mid, hMid, hMidClose, hMode⟩
      have hTail : Token.IsSpread tokens := hSpread.tail
      have hAfter :
          ∃ after,
            first.foldlM step mid = some after ∧
              after.close? = some (t :: done) := by
        cases hSpells with
        | mark hMark =>
            refine ⟨⟨t :: done, .between⟩, ?_, rfl⟩
            exact foldlM_cons_of_some (step_mark hMidClose hMark) []
        | scalar hScalar =>
            have hBetween := hMode (hFirst _ rfl rfl)
            rcases mid with ⟨before, mode⟩
            obtain rfl : mode = .between := hBetween
            obtain rfl := Option.some.inj hMidClose
            exact foldlM_scalar hScalar
      rcases hAfter with ⟨after, hAfter, hAfterClose⟩
      -- a scalar that follows finds no other in the making
      have hNext :
          ∀ u ∈ tokens.head?,
            u.isScalar = true → after.mode = .between := by
        intro u hHead hScalar
        have hStep :
            t.isScalar = true → u.isScalar = false :=
          (List.isChain_cons.mp hSpread).1 u hHead
        cases hKind : t.isScalar with
        | true => simp [hStep hKind] at hScalar
        | false => rw [eq_of_close? hAfterClose hKind]
      rcases ih hTail hAfterClose hNext with
        ⟨last, hFold, hLast⟩
      rw [foldlM_append_of_some hMid, foldlM_append_of_some hAfter]
      refine ⟨last, hFold, ?_⟩
      rw [hLast, List.reverse_cons, List.append_assoc]
      rfl

end Scan

namespace Token

variable {tokens : List Token}
variable {cs : List Char}

/- A whole text is scanned from nothing. -/
theorem foldlM_of_spellAll
    (hAll : SpellAll tokens cs)
    (hSpread : IsSpread tokens) :
    ∃ last,
      cs.foldlM Scan.step ⟨[], .between⟩ = some last ∧
        last.close? = some tokens.reverse := by
  have hStart : Scan.close? ⟨[], .between⟩ = some [] := rfl
  have hFold :=
    Scan.foldlM_spellAll hAll hSpread hStart
      (fun _ _ _ => rfl)
  simpa using hFold

/- Scanning finds the tokens that the text spells. -/
theorem scan?_of_spellAll
    (hAll : SpellAll tokens cs)
    (hSpread : IsSpread tokens) :
    scan? cs = some tokens := by
  rcases foldlM_of_spellAll hAll hSpread with
    ⟨last, hFold, hClose⟩
  rw [scan?, hFold, Option.bind_some, Scan.finish?_eq_close?,
    hClose, Option.map_some, List.reverse_reverse]

end Token

------------------------------------------------------------
-- Texts after Texts
------------------------------------------------------------

namespace Scan

/- A scanner that found some tokens earlier. -/
def after (base : List Token) (scan : Scan) : Scan :=
  ⟨scan.tokens ++ base, scan.mode⟩

variable (base : List Token)

theorem begin_after (tokens : List Token) (c : Char) :
    begin (tokens ++ base) c =
      (begin tokens c).map (after base) := by
  unfold begin
  repeat' split
  all_goals simp [after, Function.comp_def]

/- What was found earlier has no part in a step. -/
theorem step_after (scan : Scan) (c : Char) :
    (scan.after base).step c =
      (scan.step c).map (after base) := by
  rcases scan with ⟨tokens, mode⟩
  have hBegin := fun t => begin_after base (t :: tokens) c
  cases mode with
  | between => exact begin_after base tokens c
  | string s =>
      cases hStep : s.step c with
      | none => simp [step, after, hStep]
      | some next => cases next <;> simp [step, after, hStep]
  | number cs =>
      simp only [step, after]
      split
      · rfl
      · cases Number.ofChars? cs.reverse with
        | none => rfl
        | some n => exact hBegin _
  | word cs =>
      simp only [step, after]
      split
      · rfl
      · cases word? cs.reverse with
        | none => rfl
        | some s => exact hBegin _

theorem foldlM_after (cs : List Char) (scan : Scan) :
    cs.foldlM step (scan.after base) =
      (cs.foldlM step scan).map (after base) := by
  induction cs generalizing scan with
  | nil => rfl
  | cons c cs ih =>
      rw [List.foldlM_cons, List.foldlM_cons, step_after]
      cases scan.step c with
      | none => rfl
      | some next => exact ih next

theorem finish?_after (scan : Scan) :
    (scan.after base).finish? =
      scan.finish?.map (base.reverse ++ ·) := by
  rcases scan with ⟨tokens, mode⟩
  cases mode <;>
    simp [finish?, after, Function.comp_def]

end Scan

/-
  A text whose last token is a mark may be followed by any
  other: the tokens of the two are found one after the other.
-/
theorem Token.scan?_append
    {tokens : List Token}
    {cs : List Char}
    (hAll : SpellAll tokens cs)
    (hSpread : IsSpread tokens)
    {t : Token}
    (hLast : tokens.getLast? = some t)
    (hMark : t.isScalar = false)
    (more : List Char) :
    scan? (cs ++ more) = (scan? more).map (tokens ++ ·) := by
  rcases foldlM_of_spellAll hAll hSpread with
    ⟨last, hFold, hClose⟩
  -- after a mark no token is left in the making
  have hHead : tokens.reverse.head? = some t := by
    rw [List.head?_reverse, hLast]
  have hBetween : last = ⟨tokens.reverse, .between⟩ := by
    cases hTokens : tokens.reverse with
    | nil =>
        rw [hTokens] at hHead
        cases hHead
    | cons u others =>
        rw [hTokens] at hHead hClose
        obtain rfl := Option.some.inj hHead
        exact Scan.eq_of_close? hClose hMark
  have hStart :
      last = Scan.after tokens.reverse ⟨[], .between⟩ :=
    hBetween
  rw [scan?, foldlM_append_of_some hFold, hStart,
    Scan.foldlM_after, scan?]
  cases more.foldlM Scan.step ⟨[], .between⟩ with
  | none => rfl
  | some scan =>
      have hFinish := Scan.finish?_after tokens.reverse scan
      rwa [List.reverse_reverse] at hFinish

end Json

end EventFeed
