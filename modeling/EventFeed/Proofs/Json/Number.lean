import EventFeed.Json.Printer
import EventFeed.Json.Token

/-
  This file says how numbers are spelled in JSON text.

  A number is proper when there are digits wherever there must
  be some, and its whole part has no zero in front.  It is
  spelled by its digits; only the mark of its power of ten may
  be of either case, and a plus may be left out.  Reading finds
  just the numbers that a text spells, and the digits that are
  printed spell the number they came from.

  Key definitions include:
    * `Json.IsDigits`
    * `Json.Number.IsProper`
    * `Json.Number.Spells`

  Key results include:
    * `Json.Number.ofChars?_eq_some_iff`
    * `Json.Number.spells_chars`
-/

------------------------------------------------------------
-- Spellings of Numbers
------------------------------------------------------------

namespace EventFeed

namespace Json

/- At least one digit, and nothing else. -/
def IsDigits (cs : List Char) : Prop :=
  cs ≠ [] ∧ ∀ c ∈ cs, isDigit c = true

instance (cs : List Char) : Decidable (IsDigits cs) :=
  decidable_of_iff (cs ≠ [] ∧ cs.all isDigit = true)
    (and_congr_right fun _ => List.all_eq_true)

/- Digits that are a lone zero or do not start with one. -/
def IsWhole (cs : List Char) : Prop :=
  IsDigits cs ∧ (cs.head? = some '0' → cs = ['0'])

instance (cs : List Char) : Decidable (IsWhole cs) :=
  inferInstanceAs (Decidable (_ ∧ _))

/-
  How a power of ten may be spelled, if there is one.  Its
  sign may be left out when it is a plus.
-/
inductive SpellsScale : Option Exponent → List Char → Prop
  | none : SpellsScale none []
  | signed
      (e : Exponent)
      (mark : Char)
      (hMark : mark = 'e' ∨ mark = 'E') :
      SpellsScale (some e)
        (mark :: (if e.negative then '-' else '+') :: e.digits)
  | unsigned
      (e : Exponent)
      (mark : Char)
      (hMark : mark = 'e' ∨ mark = 'E')
      (hPlus : e.negative = false) :
      SpellsScale (some e) (mark :: e.digits)

namespace Number

/- There are digits wherever a number must have some. -/
structure IsProper (n : Number) : Prop where
  whole : IsWhole n.whole
  fraction : ∀ f ∈ n.fraction, IsDigits f
  exponent : ∀ e ∈ n.exponent, IsDigits e.digits

instance (n : Number) : Decidable n.IsProper :=
  decidable_of_iff
    (IsWhole n.whole ∧
      n.fraction.all (fun f => IsDigits f) = true ∧
      n.exponent.all (fun e => IsDigits e.digits) = true)
    (by
      simp only [Option.all_eq_true, decide_eq_true_eq]
      exact
        ⟨fun h => ⟨h.1, h.2.1, h.2.2⟩,
          fun h => ⟨h.whole, h.fraction, h.exponent⟩⟩)

/- The sign of a number. -/
def signChars (negative : Bool) : List Char :=
  if negative then ['-'] else []

/- The digits of a fraction after their point, if any. -/
def fractionChars : Option (List Char) → List Char
  | some f => '.' :: f
  | none => []

/- The digits of a number before its power of ten. -/
def mantissa (n : Number) : List Char :=
  signChars n.negative ++ (n.whole ++ fractionChars n.fraction)

/-
  How a number is spelled: its digits are as they are kept,
  and its power of ten is spelled in one of the ways there are.
-/
structure Spells (n : Number) (cs : List Char) : Prop where
  proper : n.IsProper
  text :
    ∃ tail, SpellsScale n.exponent tail ∧
      cs = n.mantissa ++ tail

end Number

------------------------------------------------------------
-- Runs of Digits
------------------------------------------------------------

theorem IsDigits.head
    {c : Char}
    {cs : List Char}
    (hDigits : IsDigits (c :: cs)) :
    isDigit c = true :=
  hDigits.2 c List.mem_cons_self

/- A digit is none of the marks of a number. -/
theorem ne_of_isDigit
    {c : Char}
    (hDigit : isDigit c = true) :
    c ≠ '-' ∧ c ≠ '+' ∧ c ≠ '.' ∧ c ≠ 'e' ∧ c ≠ 'E' := by
  refine ⟨?_, ?_, ?_, ?_, ?_⟩ <;>
    · rintro rfl
      contradiction

/- A run of digits ends where something else follows. -/
theorem takeWhile_digits
    {digits rest : List Char}
    (hDigits : ∀ c ∈ digits, isDigit c = true)
    (hRest : rest.head?.any isDigit = false) :
    (digits ++ rest).takeWhile isDigit = digits ∧
      (digits ++ rest).dropWhile isDigit = rest := by
  rw [List.takeWhile_append_of_pos hDigits,
    List.dropWhile_append_of_pos hDigits]
  cases rest with
  | nil => exact ⟨List.append_nil _, rfl⟩
  | cons c rest =>
      have hFirst : ¬isDigit c = true := by
        simpa using hRest
      rw [List.takeWhile_cons_of_neg hFirst,
        List.dropWhile_cons_of_neg hFirst]
      exact ⟨List.append_nil _, rfl⟩

theorem isDigits_takeWhile
    {cs : List Char}
    (hSome : cs.takeWhile isDigit ≠ []) :
    IsDigits (cs.takeWhile isDigit) :=
  ⟨hSome, List.all_eq_true.mp List.all_takeWhile⟩

/- What spells a power of ten does not start with a digit. -/
theorem SpellsScale.head
    {e : Option Exponent}
    {tail : List Char}
    (hTail : SpellsScale e tail) :
    tail.head?.any isDigit = false ∧
      tail.head? ≠ some '.' := by
  cases hTail with
  | none => decide
  | signed e mark hMark =>
      rcases hMark with rfl | rfl <;> exact ⟨rfl, by simp⟩
  | unsigned e mark hMark hPlus =>
      rcases hMark with rfl | rfl <;> exact ⟨rfl, by simp⟩

------------------------------------------------------------
-- Powers of Ten
------------------------------------------------------------

namespace Exponent

/- Digits after a sign are those of the power of ten. -/
theorem digits_eq_some_iff
    {negative : Bool}
    {digits : List Char}
    {e : Exponent} :
    (if digits ≠ [] ∧ digits.all isDigit then
        some (Exponent.mk negative digits)
      else
        none) = some e ↔
      IsDigits e.digits ∧ e.negative = negative ∧
        e.digits = digits := by
  rw [Option.ite_none_right_eq_some, List.all_eq_true,
    Option.some.injEq]
  constructor
  · rintro ⟨hDigits, rfl⟩
    exact ⟨hDigits, rfl, rfl⟩
  · rintro ⟨hDigits, rfl, rfl⟩
    exact ⟨hDigits, rfl⟩

/- What may stand after the mark of a power of ten. -/
theorem ofChars?_eq_some_iff
    {cs : List Char}
    {e : Exponent} :
    ofChars? cs = some e ↔
      IsDigits e.digits ∧
        (cs = (if e.negative then '-' else '+') :: e.digits ∨
          e.negative = false ∧ cs = e.digits) := by
  unfold ofChars?
  split
  next negative digits hSplit =>
    rw [digits_eq_some_iff]
    apply and_congr_right
    intro hDigits
    have hNoSign :
        ∀ c rest, c = '-' ∨ c = '+' → e.digits ≠ c :: rest := by
      intro c rest hSign hEq
      rw [hEq] at hDigits
      have hMarks := ne_of_isDigit hDigits.head
      rcases hSign with rfl | rfl
      · exact hMarks.1 rfl
      · exact hMarks.2.1 rfl
    cases hNegative : e.negative with
    | true =>
        split at hSplit
        · next rest =>
          obtain ⟨rfl, rfl⟩ := Prod.mk.inj hSplit
          simp [eq_comm]
        · obtain ⟨rfl, rfl⟩ := Prod.mk.inj hSplit
          simp
        · next hMinus hPlus =>
          obtain ⟨rfl, rfl⟩ := Prod.mk.inj hSplit
          simpa using hMinus e.digits
    | false =>
        split at hSplit
        · next rest =>
          obtain ⟨rfl, rfl⟩ := Prod.mk.inj hSplit
          simpa [eq_comm] using
            hNoSign '-' rest (Or.inl rfl)
        · next rest =>
          obtain ⟨rfl, rfl⟩ := Prod.mk.inj hSplit
          have hOther := hNoSign '+' rest (Or.inr rfl)
          simp [eq_comm, hOther]
        · next hMinus hPlus =>
          obtain ⟨rfl, rfl⟩ := Prod.mk.inj hSplit
          have hOther : cs ≠ '+' :: e.digits := hPlus e.digits
          simp [hOther, eq_comm (a := e.digits)]

end Exponent

namespace Number

variable {negative : Bool}
variable {whole : List Char}
variable {fraction : Option (List Char)}
variable {cs : List Char}
variable {n : Number}

/- What may stand after the fraction. -/
theorem ofTail?_eq_some_iff :
    ofTail? negative whole fraction cs = some n ↔
      ∃ e, n = ⟨negative, whole, fraction, e⟩ ∧
        (∀ x ∈ e, IsDigits x.digits) ∧ SpellsScale e cs := by
  constructor
  · intro hTail
    cases cs with
    | nil =>
        obtain rfl := Option.some.inj hTail
        exact ⟨none, rfl, by simp, .none⟩
    | cons c rest =>
        rw [ofTail?] at hTail
        split at hTail
        · next hMark =>
          rcases Option.map_eq_some_iff.mp hTail with
            ⟨e, hExponent, rfl⟩
          rcases Exponent.ofChars?_eq_some_iff.mp hExponent with
            ⟨hDigits, rfl | ⟨hPlus, rfl⟩⟩
          · exact
              ⟨some e, rfl, by simpa using hDigits,
                .signed e c hMark⟩
          · exact
              ⟨some e, rfl, by simpa using hDigits,
                .unsigned e c hMark hPlus⟩
        · contradiction
  · rintro ⟨e, rfl, hDigits, hScale⟩
    cases hScale with
    | none => rfl
    | signed e mark hMark =>
        have hExponent :=
          Exponent.ofChars?_eq_some_iff.mpr
            ⟨hDigits e rfl, Or.inl rfl⟩
        rw [ofTail?, if_pos hMark, hExponent]
        rfl
    | unsigned e mark hMark hPlus =>
        have hExponent :=
          Exponent.ofChars?_eq_some_iff.mpr
            ⟨hDigits e rfl, Or.inr ⟨hPlus, rfl⟩⟩
        rw [ofTail?, if_pos hMark, hExponent]
        rfl

/- What may stand after the whole part. -/
theorem ofFraction?_eq_some_iff :
    ofFraction? negative whole cs = some n ↔
      ∃ fraction tail,
        cs = fractionChars fraction ++ tail ∧
          (∀ f ∈ fraction, IsDigits f) ∧
          ofTail? negative whole fraction tail = some n := by
  constructor
  · intro hFraction
    unfold ofFraction? at hFraction
    split at hFraction
    · next rest =>
      dsimp only at hFraction
      split at hFraction
      · contradiction
      · next hSome =>
        refine
          ⟨some (rest.takeWhile isDigit),
            rest.dropWhile isDigit, ?_, ?_, hFraction⟩
        · rw [fractionChars, List.cons_append,
            List.takeWhile_append_dropWhile]
        · simpa using isDigits_takeWhile hSome
    · exact ⟨none, cs, rfl, by simp, hFraction⟩
  · rintro ⟨fraction, tail, rfl, hDigits, hTail⟩
    rcases ofTail?_eq_some_iff.mp hTail with
      ⟨e, _, _, hScale⟩
    have hHead := hScale.head
    cases fraction with
    | none =>
        unfold ofFraction?
        split
        · next rest hPoint =>
          have hTail' : tail = '.' :: rest := hPoint
          rw [hTail'] at hHead
          simp at hHead
        · exact hTail
    | some f =>
        have hSome := hDigits f rfl
        have hRun := takeWhile_digits hSome.2 hHead.1
        rw [fractionChars, List.cons_append, ofFraction?,
          hRun.1, hRun.2, if_neg hSome.1]
        exact hTail

/- Neither point nor mark nor end is a digit. -/
theorem head_of_ofFraction?
    (hFraction : ofFraction? negative whole cs = some n) :
    cs.head?.any isDigit = false := by
  rcases ofFraction?_eq_some_iff.mp hFraction with
    ⟨fraction, tail, rfl, _, hTail⟩
  cases fraction with
  | none =>
      rcases ofTail?_eq_some_iff.mp hTail with
        ⟨e, _, _, hScale⟩
      exact hScale.head.1
  | some f => rfl

/- What may stand after the sign. -/
theorem ofUnsigned?_eq_some_iff :
    ofUnsigned? negative cs = some n ↔
      ∃ whole rest,
        cs = whole ++ rest ∧ IsWhole whole ∧
          ofFraction? negative whole rest = some n := by
  constructor
  · intro hUnsigned
    unfold ofUnsigned? at hUnsigned
    split at hUnsigned
    · next rest =>
      refine ⟨['0'], rest, rfl, by decide, ?_⟩
      split at hUnsigned
      · split at hUnsigned
        · contradiction
        · exact hUnsigned
      · exact hUnsigned
    · next hZero =>
      dsimp only at hUnsigned
      split at hUnsigned
      · contradiction
      · next hSome =>
        refine
          ⟨cs.takeWhile isDigit, cs.dropWhile isDigit,
            List.takeWhile_append_dropWhile.symm,
            ⟨isDigits_takeWhile hSome, ?_⟩, hUnsigned⟩
        intro hHead
        cases cs with
        | nil => contradiction
        | cons c rest =>
            unfold List.takeWhile at hHead
            split at hHead
            · obtain rfl := Option.some.inj hHead
              exact absurd rfl (hZero rest)
            · contradiction
  · rintro ⟨whole, rest, rfl, hWhole, hFraction⟩
    have hRest := head_of_ofFraction? hFraction
    by_cases hZero : whole.head? = some '0'
    · obtain rfl := hWhole.2 hZero
      unfold ofUnsigned?
      cases rest with
      | nil => exact hFraction
      | cons c rest =>
          have hDigit : ¬isDigit c = true := by
            simpa using hRest
          simp only [List.cons_append, List.nil_append, hDigit]
          exact hFraction
    · have hRun := takeWhile_digits hWhole.1.2 hRest
      unfold ofUnsigned?
      split
      · next rest' hSame =>
        cases whole with
        | nil => exact absurd rfl hWhole.1.1
        | cons c whole =>
            rw [List.cons_append] at hSame
            rw [(List.cons.inj hSame).1] at hZero
            exact absurd rfl hZero
      · dsimp only
        rw [hRun.1, hRun.2, if_neg hWhole.1.1]
        exact hFraction

/- What a number may start with. -/
theorem ofChars?_eq_unsigned :
    ofChars? cs = some n ↔
      ∃ negative rest, cs = signChars negative ++ rest ∧
        ofUnsigned? negative rest = some n := by
  constructor
  · intro hChars
    unfold ofChars? at hChars
    split at hChars
    · next rest => exact ⟨true, rest, rfl, hChars⟩
    · exact ⟨false, cs, rfl, hChars⟩
  · rintro ⟨negative, rest, rfl, hUnsigned⟩
    cases negative with
    | true => exact hUnsigned
    | false =>
        rcases ofUnsigned?_eq_some_iff.mp hUnsigned with
          ⟨whole, tail, rfl, hWhole, _⟩
        unfold ofChars?
        split
        · next rest' hMinus =>
          cases whole with
          | nil => exact absurd rfl hWhole.1.1
          | cons c whole =>
              have hFirst : c = '-' :=
                (List.cons.inj hMinus).1
              have hMarks := ne_of_isDigit hWhole.1.head
              exact absurd hFirst hMarks.1
        · exact hUnsigned

/- Reading finds just the number that a text spells. -/
theorem ofChars?_eq_some_iff :
    ofChars? cs = some n ↔ n.Spells cs := by
  constructor
  · intro hChars
    rcases ofChars?_eq_unsigned.mp hChars with
      ⟨negative, unsigned, rfl, hUnsigned⟩
    rcases ofUnsigned?_eq_some_iff.mp hUnsigned with
      ⟨whole, rest, rfl, hWhole, hFraction⟩
    rcases ofFraction?_eq_some_iff.mp hFraction with
      ⟨fraction, tail, rfl, hDigits, hTail⟩
    rcases ofTail?_eq_some_iff.mp hTail with
      ⟨e, rfl, hScale, hSpells⟩
    refine ⟨⟨hWhole, hDigits, hScale⟩, tail, hSpells, ?_⟩
    simp [mantissa]
  · rintro ⟨hProper, tail, hScale, rfl⟩
    apply ofChars?_eq_unsigned.mpr
    refine ⟨n.negative, _, List.append_assoc _ _ _, ?_⟩
    apply ofUnsigned?_eq_some_iff.mpr
    refine
      ⟨n.whole, _, List.append_assoc _ _ _, hProper.whole, ?_⟩
    apply ofFraction?_eq_some_iff.mpr
    refine ⟨n.fraction, tail, rfl, hProper.fraction, ?_⟩
    apply ofTail?_eq_some_iff.mpr
    exact ⟨n.exponent, rfl, hProper.exponent, hScale⟩

/- The digits that are printed spell their number. -/
theorem spells_chars (hProper : n.IsProper) :
    n.Spells n.chars := by
  cases hExponent : n.exponent with
  | none =>
      refine ⟨hProper, [], ?_, ?_⟩
      · rw [hExponent]
        exact .none
      · cases hFraction : n.fraction <;>
          simp [chars, mantissa, signChars, fractionChars,
            hExponent, hFraction]
  | some e =>
      refine ⟨hProper, e.chars, ?_, ?_⟩
      · rw [hExponent]
        exact .signed e 'e' (Or.inl rfl)
      · cases hFraction : n.fraction <;>
          simp [chars, mantissa, signChars, fractionChars,
            hExponent, hFraction]

/- What spells a number is made of the characters of one. -/
theorem Spells.isNumberChar
    (hSpells : n.Spells cs) :
    ∀ c ∈ cs, Scan.isNumberChar c = true := by
  rcases hSpells with ⟨hProper, tail, hScale, rfl⟩
  have hDigits :
      ∀ {ds : List Char}, IsDigits ds →
        ∀ c ∈ ds, Scan.isNumberChar c = true := by
    intro ds hRun c hMember
    simp [Scan.isNumberChar, hRun.2 c hMember]
  have hSign :
      ∀ c ∈ signChars n.negative,
        Scan.isNumberChar c = true := by
    cases n.negative with
    | true => exact List.forall_mem_singleton.mpr rfl
    | false => exact List.forall_mem_nil _
  have hFraction :
      ∀ c ∈ fractionChars n.fraction,
        Scan.isNumberChar c = true := by
    cases hSome : n.fraction with
    | none => simp [fractionChars]
    | some f =>
        rw [fractionChars, List.forall_mem_cons]
        exact ⟨rfl, hDigits (hProper.fraction f hSome)⟩
  have hTail : ∀ c ∈ tail, Scan.isNumberChar c = true := by
    have hExponent := hProper.exponent
    revert hScale hExponent
    generalize n.exponent = e
    intro hScale hExponent
    cases hScale with
    | none => simp
    | signed e mark hMark =>
        rw [List.forall_mem_cons, List.forall_mem_cons]
        refine ⟨?_, ?_, hDigits (hExponent e rfl)⟩
        · rcases hMark with rfl | rfl <;> rfl
        · cases e.negative <;> rfl
    | unsigned e mark hMark hPlus =>
        rw [List.forall_mem_cons]
        refine ⟨?_, hDigits (hExponent e rfl)⟩
        rcases hMark with rfl | rfl <;> rfl
  intro c hMember
  simp only [mantissa, List.mem_append] at hMember
  rcases hMember with (hMember | hMember | hMember) | hMember
  · exact hSign c hMember
  · exact hDigits hProper.whole.1 c hMember
  · exact hFraction c hMember
  · exact hTail c hMember

/- It starts with a minus or a digit. -/
theorem Spells.head
    (hSpells : n.Spells cs) :
    ∃ c rest,
      cs = c :: rest ∧ (c = '-' ∨ isDigit c = true) := by
  rcases hSpells with ⟨hProper, tail, _, rfl⟩
  unfold mantissa
  cases n.negative with
  | true => exact ⟨'-', _, rfl, Or.inl rfl⟩
  | false =>
      have hWhole := hProper.whole.1
      cases hCons : n.whole with
      | nil => exact absurd hCons hWhole.1
      | cons c rest =>
          rw [hCons] at hWhole
          exact ⟨c, _, rfl, Or.inr hWhole.head⟩

end Number

end Json

end EventFeed
