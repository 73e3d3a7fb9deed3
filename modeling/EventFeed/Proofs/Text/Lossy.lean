import EventFeed.Proofs.Text.Utf8

/-
  This file proves that bytes which arrive one after the
  other are decoded as they would be decoded at once.

  Decoding at once is told without a decoder.  A character
  that the bytes start with is taken as it is; otherwise the
  longest start of any character's bytes that the bytes start
  with, or else a single byte, costs one replacement.  What a
  decoder carries are the first bytes of a character, so it
  never settles bytes that a later byte could still make one.

  Key definitions include:
    * `Utf8.Begins`
    * `Utf8.Broken`
    * `Utf8.Lossy`
    * `Utf8.sweep`
    * `Utf8.Started`
    * `Utf8.Stuck`
    * `Utf8.Parted`

  Key results include:
    * `Utf8.Spells.eq_encode`
    * `Utf8.Started.begins`
    * `Utf8.parted`
    * `Utf8.lossy_iff`
    * `Utf8.sweep_eq_decode`
-/

------------------------------------------------------------
-- Lossy Decoding
------------------------------------------------------------

namespace EventFeed

namespace Utf8

/- The bytes begin a character, and more of it is to come. -/
def Begins (bytes : List UInt8) : Prop :=
  ∃ c rest, rest ≠ [] ∧ encode c = bytes ++ rest

/-
  No character stands in front of the bytes, and the given
  part of them is all that can be made out of one: the
  longest part that begins a character or, if none does, one
  byte.
-/
structure Broken (part rest : List UInt8) : Prop where
  spells : ∀ c, ¬ encode c <+: part ++ rest
  nonempty : part ≠ []
  begins : Begins part ∨ part.length = 1
  longest :
    ∀ more, more <+: part ++ rest → Begins more →
      more.length ≤ part.length

/-
  The text that bytes come to when each maximal ill-formed
  part of them is replaced.
-/
inductive Lossy : List UInt8 → List Char → Prop
  | nil : Lossy [] []
  | char
      (c : Char)
      {rest : List UInt8}
      {text : List Char}
      (hRest : Lossy rest text) :
      Lossy (encode c ++ rest) (c :: text)
  | broken
      {part rest : List UInt8}
      {text : List Char}
      (hBroken : Broken part rest)
      (hRest : Lossy rest text) :
      Lossy (part ++ rest) (replacement :: text)

/- Decode chunks one after the other. -/
def decodeEach
    (carried : List UInt8) :
    List (List UInt8) → List Char × List UInt8
  | [] => ([], carried)
  | chunk :: chunks =>
      let one := decode carried chunk
      let more := decodeEach one.2 chunks
      (one.1 ++ more.1, more.2)

/-
  Decode by strict readings, at most `n` of them: each one
  goes up to the next ill-formed part, which is replaced and
  left behind.  The last one ends with the bytes or with a
  character that was cut short.
-/
def sweep : Nat → List UInt8 → Option (List Char × List UInt8)
  | 0, _ => none
  | n + 1, bytes =>
      let read := strict [] bytes
      match badLength? [] read.2 with
      | none => some read
      | some k =>
          (sweep n (read.2.drop k)).map fun more =>
            (read.1 ++ replacement :: more.1, more.2)

theorem decodeEach_eq
    (carried : List UInt8)
    (chunks : List (List UInt8)) :
    decodeEach carried chunks =
      decode carried chunks.flatten := by
  induction chunks generalizing carried with
  | nil => rfl
  | cons chunk chunks ih =>
      rw [decodeEach, ih, List.flatten_cons, decode_append]

end Utf8

end EventFeed

------------------------------------------------------------
-- Ranges of Bytes
------------------------------------------------------------

namespace EventFeed

namespace Utf8

variable {a b d e : UInt8}

/- The width that a lead byte announces, by its number. -/
theorem width_eq (a : UInt8) :
    width a =
      if a.toNat < 0x80 then 1
      else if a.toNat < 0xc2 then 0
      else if a.toNat < 0xe0 then 2
      else if a.toNat < 0xf0 then 3
      else if a.toNat < 0xf5 then 4
      else 0 := by
  simp only [width, UInt8.lt_iff_toNat_lt, UInt8.reduceToNat]

theorem lead_one
    (hWidth : width a = 1) :
    a.toNat < 0x80 := by
  rw [width_eq] at hWidth
  grind

theorem lead_two
    (hWidth : width a = 2) :
    0xc2 ≤ a.toNat ∧ a.toNat < 0xe0 := by
  rw [width_eq] at hWidth
  grind

theorem lead_three
    (hWidth : width a = 3) :
    0xe0 ≤ a.toNat ∧ a.toNat < 0xf0 := by
  rw [width_eq] at hWidth
  grind

theorem lead_four
    (hWidth : width a = 4) :
    0xf0 ≤ a.toNat ∧ a.toNat < 0xf5 := by
  rw [width_eq] at hWidth
  grind

theorem width_le_four (a : UInt8) : width a ≤ 4 := by
  rw [width_eq]
  grind

/- The range of a second byte, by numbers. -/
theorem secondOk_iff :
    secondOk a b = true ↔
      (0x80 ≤ b.toNat ∧ b.toNat ≤ 0xbf) ∧
        (a.toNat = 0xe0 → 0xa0 ≤ b.toNat) ∧
        (a.toNat = 0xed → b.toNat ≤ 0x9f) ∧
        (a.toNat = 0xf0 → 0x90 ≤ b.toNat) ∧
        (a.toNat = 0xf4 → b.toNat ≤ 0x8f) := by
  simp only [secondOk, beq_iff_eq, ← UInt8.toNat_inj,
    UInt8.le_iff_toNat_le, UInt8.reduceToNat]
  grind

theorem isTail_iff :
    isTail b = true ↔ 0x80 ≤ b.toNat ∧ b.toNat ≤ 0xbf := by
  simp [isTail, UInt8.le_iff_toNat_le]

/- A byte is known by its number. -/
theorem ofNat_eq
    {n : Nat}
    (hNumber : n = a.toNat) :
    UInt8.ofNat n = a := by
  rw [hNumber]
  exact UInt8.ofNat_toNat

end Utf8

end EventFeed

------------------------------------------------------------
-- Characters by Their Bytes
------------------------------------------------------------

namespace EventFeed

namespace Utf8

/- Bytes that spell a character are those it is written as. -/
theorem Spells.eq_encode
    {c : Char}
    {bytes : List UInt8}
    (hSpells : Spells c bytes) :
    bytes = encode c := by
  cases hSpells with
  | one a hWidth hValue =>
      have hLead := lead_one hWidth
      unfold encode
      dsimp only
      rw [if_pos (by omega), ofNat_eq hValue.symm]
  | two a b hWidth hSecond hValue =>
      have hLead := lead_two hWidth
      have hByte := (secondOk_iff.mp hSecond).1
      rw [value_two] at hValue
      unfold encode
      dsimp only
      rw [if_neg (by omega), if_pos (by omega),
        ofNat_eq (a := a) (by omega),
        ofNat_eq (a := b) (by omega)]
  | three a b d hWidth hSecond hThird hValue =>
      have hLead := lead_three hWidth
      have hByte := secondOk_iff.mp hSecond
      have hTail := isTail_iff.mp hThird
      rw [value_three] at hValue
      unfold encode
      dsimp only
      rw [if_neg (by omega), if_neg (by omega),
        if_pos (by omega), ofNat_eq (a := a) (by omega),
        ofNat_eq (a := b) (by omega),
        ofNat_eq (a := d) (by omega)]
  | four a b d e hWidth hSecond hThird hFourth hValue =>
      have hLead := lead_four hWidth
      have hByte := secondOk_iff.mp hSecond
      have hTail := isTail_iff.mp hThird
      have hTail' := isTail_iff.mp hFourth
      rw [value_four] at hValue
      unfold encode
      dsimp only
      rw [if_neg (by omega), if_neg (by omega),
        if_neg (by omega), ofNat_eq (a := a) (by omega),
        ofNat_eq (a := b) (by omega),
        ofNat_eq (a := d) (by omega),
        ofNat_eq (a := e) (by omega)]

/- A number that is that of a character. -/
theorem toNat_char
    {n : Nat}
    (hBounds : n < 0xd800 ∨ (0xdfff < n ∧ n < 0x110000)) :
    (Char.ofNat n).toNat = n := by
  unfold Char.ofNat
  rw [dif_pos (show n.isValidChar from hBounds)]
  rfl

/-
  Bytes of the announced width and within their ranges spell
  the character of their value.
-/
theorem spells_one
    (a : UInt8)
    (hWidth : width a = 1) :
    Spells (Char.ofNat a.toNat) [a] := by
  have hLead := lead_one hWidth
  exact .one a hWidth (toNat_char (by omega)).symm

theorem spells_two
    {a b : UInt8}
    (hWidth : width a = 2)
    (hSecond : secondOk a b = true) :
    Spells (Char.ofNat (value [a, b])) [a, b] := by
  have hLead := lead_two hWidth
  have hByte := (secondOk_iff.mp hSecond).1
  refine .two a b hWidth hSecond (toNat_char ?_).symm
  rw [value_two]
  omega

theorem spells_three
    {a b d : UInt8}
    (hWidth : width a = 3)
    (hSecond : secondOk a b = true)
    (hThird : isTail d = true) :
    Spells (Char.ofNat (value [a, b, d])) [a, b, d] := by
  have hLead := lead_three hWidth
  have hByte := secondOk_iff.mp hSecond
  have hTail := isTail_iff.mp hThird
  refine .three a b d hWidth hSecond hThird (toNat_char ?_).symm
  rw [value_three]
  omega

theorem spells_four
    {a b d e : UInt8}
    (hWidth : width a = 4)
    (hSecond : secondOk a b = true)
    (hThird : isTail d = true)
    (hFourth : isTail e = true) :
    Spells (Char.ofNat (value [a, b, d, e])) [a, b, d, e] := by
  have hLead := lead_four hWidth
  have hByte := secondOk_iff.mp hSecond
  have hTail := isTail_iff.mp hThird
  have hTail' := isTail_iff.mp hFourth
  refine
    .four a b d e hWidth hSecond hThird hFourth
      (toNat_char ?_).symm
  rw [value_four]
  omega

end Utf8

end EventFeed

------------------------------------------------------------
-- Characters Cut Short
------------------------------------------------------------

namespace EventFeed

namespace Utf8

/-
  The bytes that a decoder carries: each is within its range,
  and there are fewer of them than the first one announces.
-/
inductive Started : List UInt8 → Prop
  | none : Started []
  | one
      (a : UInt8)
      (hWidth : 1 < width a) :
      Started [a]
  | two
      (a b : UInt8)
      (hWidth : 2 < width a)
      (hSecond : secondOk a b = true) :
      Started [a, b]
  | three
      (a b d : UInt8)
      (hWidth : 3 < width a)
      (hSecond : secondOk a b = true)
      (hThird : isTail d = true) :
      Started [a, b, d]

/- Every lead byte has a second byte in its range. -/
theorem exists_secondOk (a : UInt8) :
    ∃ b, secondOk a b = true := by
  by_cases hOverlong : a.toNat = 0xe0
  · refine ⟨0xa0, secondOk_iff.mpr ?_⟩
    simp [hOverlong]
  · by_cases hShort : a.toNat = 0xf0
    · refine ⟨0x90, secondOk_iff.mpr ?_⟩
      simp [hShort]
    · refine ⟨0x80, secondOk_iff.mpr ?_⟩
      simp [hOverlong, hShort]

theorem Spells.begins
    {c : Char}
    (bytes rest : List UInt8)
    (hSpells : Spells c (bytes ++ rest))
    (hRest : rest ≠ []) :
    Begins bytes :=
  ⟨c, rest, hRest, hSpells.eq_encode.symm⟩

namespace Started

variable {carried : List UInt8}

theorem length_le
    (hStarted : Started carried) :
    carried.length ≤ 3 := by
  cases hStarted <;> simp

/-
  Some character begins with them: whatever bytes are missing
  can be chosen from their ranges.
-/
theorem begins
    (hStarted : Started carried) :
    Begins carried := by
  have hTail : isTail 0x80 = true := rfl
  cases hStarted with
  | none =>
      exact ⟨'a', encode 'a', by decide, rfl⟩
  | one a hWidth =>
      obtain ⟨b, hSecond⟩ := exists_secondOk a
      have hCases : width a = 2 ∨ width a = 3 ∨ width a = 4 := by
        have hMost := width_le_four a
        omega
      rcases hCases with hWidth | hWidth | hWidth
      · exact
          Spells.begins [a] [b]
            (spells_two hWidth hSecond) (by simp)
      · exact
          Spells.begins [a] [b, 0x80]
            (spells_three hWidth hSecond hTail) (by simp)
      · exact
          Spells.begins [a] [b, 0x80, 0x80]
            (spells_four hWidth hSecond hTail hTail) (by simp)
  | two a b hWidth hSecond =>
      have hCases : width a = 3 ∨ width a = 4 := by
        have hMost := width_le_four a
        omega
      rcases hCases with hWidth | hWidth
      · exact
          Spells.begins [a, b] [0x80]
            (spells_three hWidth hSecond hTail) (by simp)
      · exact
          Spells.begins [a, b] [0x80, 0x80]
            (spells_four hWidth hSecond hTail hTail) (by simp)
  | three a b d hWidth hSecond hThird =>
      have hFour : width a = 4 := by
        have hMost := width_le_four a
        omega
      exact
        Spells.begins [a, b, d] [0x80]
          (spells_four hFour hSecond hThird hTail) (by simp)

end Started

end Utf8

end EventFeed

------------------------------------------------------------
-- What Carried Bytes Do to a Reading
------------------------------------------------------------

namespace EventFeed

namespace Utf8

namespace Started

variable {carried : List UInt8}

/- The decoder settles nothing of them. -/
theorem decode_eq
    (hStarted : Started carried) :
    decode [] carried = ([], carried) := by
  cases hStarted with
  | none => rfl
  | one a hWidth =>
      obtain ⟨n, hWidth⟩ := Nat.exists_eq_add_of_le' hWidth
      simp [decode, push, start, hWidth]
  | two a b hWidth hSecond =>
      obtain ⟨n, hWidth⟩ := Nat.exists_eq_add_of_le' hWidth
      simp [decode, push, start, hWidth, continues, hSecond]
  | three a b d hWidth hSecond hThird =>
      obtain ⟨n, hWidth⟩ := Nat.exists_eq_add_of_le' hWidth
      unfold isTail at hThird
      simp [decode, push, start, hWidth, continues, hSecond,
        hThird]

/- A decoder that carries them goes on from them. -/
theorem decode_append
    (hStarted : Started carried)
    (bytes : List UInt8) :
    decode [] (carried ++ bytes) = decode carried bytes := by
  rw [Utf8.decode_append, hStarted.decode_eq]
  rfl

theorem strict_append
    (hStarted : Started carried)
    (bytes : List UInt8) :
    strict [] (carried ++ bytes) = strict carried bytes := by
  cases hStarted with
  | none => rfl
  | one a hWidth =>
      obtain ⟨n, hWidth⟩ := Nat.exists_eq_add_of_le' hWidth
      simp [strict, hWidth]
  | two a b hWidth hSecond =>
      obtain ⟨n, hWidth⟩ := Nat.exists_eq_add_of_le' hWidth
      simp [strict, hWidth, continues, hSecond]
  | three a b d hWidth hSecond hThird =>
      obtain ⟨n, hWidth⟩ := Nat.exists_eq_add_of_le' hWidth
      unfold isTail at hThird
      simp [strict, hWidth, continues, hSecond, hThird]

theorem badLength?_append
    (hStarted : Started carried)
    (bytes : List UInt8) :
    badLength? [] (carried ++ bytes) =
      badLength? carried bytes := by
  cases hStarted with
  | none => rfl
  | one a hWidth =>
      obtain ⟨n, hWidth⟩ := Nat.exists_eq_add_of_le' hWidth
      simp [badLength?, hWidth]
  | two a b hWidth hSecond =>
      obtain ⟨n, hWidth⟩ := Nat.exists_eq_add_of_le' hWidth
      simp [badLength?, hWidth, continues, hSecond]
  | three a b d hWidth hSecond hThird =>
      obtain ⟨n, hWidth⟩ := Nat.exists_eq_add_of_le' hWidth
      unfold isTail at hThird
      simp [badLength?, hWidth, continues, hSecond, hThird]

end Started

end Utf8

end EventFeed

------------------------------------------------------------
-- Ill-Formed Parts
------------------------------------------------------------

namespace EventFeed

namespace Utf8

theorem encode_ne_nil (c : Char) : encode c ≠ [] := by
  have hSpells := spells_encode c
  generalize encode c = bytes at hSpells
  cases hSpells <;> simp

/- Where strict reading finds no character, none stands. -/
theorem not_encode_prefix
    {bytes : List UInt8}
    (hStrict : (strict [] bytes).1 = [])
    (c : Char) :
    ¬ encode c <+: bytes := by
  rintro ⟨rest, rfl⟩
  rw [(spells_encode c).strict_append] at hStrict
  exact List.cons_ne_nil _ _ hStrict

/-
  Bytes begin no character if strict reading finds none
  whatever comes after them.
-/
theorem not_begins
    {bytes : List UInt8}
    (hStrict : ∀ rest, (strict [] (bytes ++ rest)).1 = []) :
    ¬ Begins bytes := by
  rintro ⟨c, rest, _, hBytes⟩
  exact
    not_encode_prefix (hStrict rest) c
      (hBytes ▸ List.prefix_refl _)

/-
  An ill-formed part stands in front, and each reading deals
  with it: the decoder replaces it and goes on behind it,
  strict reading stops before it and finds its length.
-/
structure Stuck (part rest : List UInt8) : Prop where
  broken : Broken part rest
  decode :
    decode [] (part ++ rest) =
      (replacement :: (decode [] rest).1, (decode [] rest).2)
  strict : strict [] (part ++ rest) = ([], part ++ rest)
  bad : badLength? [] (part ++ rest) = some part.length

/- A part that nothing behind it helps is ill-formed. -/
theorem broken_of_strict
    {part rest : List UInt8}
    (hNonempty : part ≠ [])
    (hBegins : Begins part ∨ part.length = 1)
    (hStrict : (strict [] (part ++ rest)).1 = [])
    (hLonger :
      ∀ more, more ≠ [] → more <+: rest →
        ¬ Begins (part ++ more)) :
    Broken part rest where
  spells := not_encode_prefix hStrict
  nonempty := hNonempty
  begins := hBegins
  longest more hPrefix hMore := by
    refine Nat.le_of_not_lt fun hLength => ?_
    have hPart : part <+: part ++ rest :=
      List.prefix_append part rest
    obtain ⟨behind, rfl⟩ :=
      List.prefix_of_prefix_length_le hPart hPrefix
        (Nat.le_of_lt hLength)
    have hBehind : behind ≠ [] := by
      rintro rfl
      simp at hLength
    exact
      hLonger behind hBehind
        ((List.prefix_append_right_inj part).mp hPrefix) hMore

namespace Started

variable {carried : List UInt8}

/- Bytes that end within a character end with such a part. -/
theorem broken
    (hStarted : Started carried)
    (hCarried : carried ≠ []) :
    Broken carried [] := by
  have hStrict : (strict [] (carried ++ [])).1 = [] := by
    rw [hStarted.strict_append]
    rfl
  refine
    broken_of_strict hCarried (.inl hStarted.begins) hStrict ?_
  intro more hMore hPrefix
  exact absurd (List.prefix_nil.mp hPrefix) hMore

/- A byte that does not go on with them leaves them broken. -/
theorem stuck
    (hStarted : Started carried)
    (hCarried : carried ≠ [])
    {b : UInt8}
    (hContinues : continues carried b = false)
    (rest : List UInt8) :
    Stuck carried (b :: rest) := by
  obtain ⟨lead, others, rfl⟩ := List.exists_cons_of_ne_nil hCarried
  have hStrict (more : List UInt8) :
      strict [] (lead :: others ++ b :: more) =
        ([], lead :: others ++ b :: more) := by
    rw [hStarted.strict_append, strict]
    simp [hContinues]
  constructor
  case strict => exact hStrict rest
  case bad =>
    rw [hStarted.badLength?_append, badLength?]
    simp [hContinues]
  case decode =>
    rw [hStarted.decode_append, decode, push]
    simp [hContinues, decode, push]
  case broken =>
    refine
      broken_of_strict hCarried (.inl hStarted.begins)
        (congrArg Prod.fst (hStrict rest)) ?_
    intro more hMore hPrefix
    obtain ⟨x, more, rfl⟩ := List.exists_cons_of_ne_nil hMore
    obtain ⟨rfl, _⟩ := List.cons_prefix_cons.mp hPrefix
    apply not_begins
    intro behind
    rw [List.append_assoc]
    exact congrArg Prod.fst (hStrict (more ++ behind))

end Started

/- So is a byte that leads no character, by itself. -/
theorem stuck_of_width
    {b : UInt8}
    (hWidth : width b = 0)
    (rest : List UInt8) :
    Stuck [b] rest := by
  have hStrict (more : List UInt8) :
      strict [] ([b] ++ more) = ([], [b] ++ more) := by
    simp [strict, hWidth]
  constructor
  case strict => exact hStrict rest
  case bad => simp [badLength?, hWidth]
  case decode => simp [decode, push, start, hWidth]
  case broken =>
    refine
      broken_of_strict (by simp) (.inr rfl)
        (congrArg Prod.fst (hStrict rest)) ?_
    intro more _ _
    apply not_begins
    intro behind
    rw [List.append_assoc, hStrict]

end Utf8

end EventFeed

------------------------------------------------------------
-- Bytes in Parts
------------------------------------------------------------

namespace EventFeed

namespace Utf8

/-
  Bytes are characters and ill-formed parts, and after them
  perhaps a character that was cut short.
-/
inductive Parted : List UInt8 → Prop
  | char
      (c : Char)
      {rest : List UInt8}
      (hRest : Parted rest) :
      Parted (encode c ++ rest)
  | stuck
      {part rest : List UInt8}
      (hStuck : Stuck part rest)
      (hRest : Parted rest) :
      Parted (part ++ rest)
  | short
      {carried : List UInt8}
      (hStarted : Started carried) :
      Parted carried

theorem Spells.parted
    {c : Char}
    {bytes rest : List UInt8}
    (hSpells : Spells c bytes)
    (hRest : Parted rest) :
    Parted (bytes ++ rest) :=
  hSpells.eq_encode ▸ .char c hRest

/-
  Each byte that goes on with the carried ones completes the
  character or not, by the width that the lead announced.
-/
theorem Started.parted_of_continues
    {carried : List UInt8}
    (hStarted : Started carried)
    {b : UInt8}
    (hContinues : continues carried b = true)
    {rest : List UInt8}
    (hRest :
      ∀ seen, Started seen → Parted (seen ++ rest)) :
    Parted (carried ++ b :: rest) := by
  have hNone : Parted rest := hRest [] .none
  cases hStarted with
  | none => exact absurd hContinues (by simp [continues])
  | one a hWidth =>
      by_cases hLast : width a = 2
      · exact (spells_two hLast hContinues).parted hNone
      · have hMore : 2 < width a := by omega
        exact hRest [a, b] (.two a b hMore hContinues)
  | two a x hWidth hSecond =>
      by_cases hLast : width a = 3
      · exact
          (spells_three hLast hSecond hContinues).parted hNone
      · have hMore : 3 < width a := by omega
        exact
          hRest [a, x, b]
            (.three a x b hMore hSecond hContinues)
  | three a x y hWidth hSecond hThird =>
      have hLast : width a = 4 := by
        have hMost := width_le_four a
        omega
      exact
        (spells_four hLast hSecond hThird hContinues).parted
          hNone

theorem parted_cons
    (b : UInt8)
    {rest : List UInt8}
    (hRest :
      ∀ seen, Started seen → Parted (seen ++ rest)) :
    Parted (b :: rest) := by
  have hNone : Parted rest := hRest [] .none
  have hCases : width b = 0 ∨ width b = 1 ∨ 1 < width b := by
    omega
  rcases hCases with hWidth | hWidth | hWidth
  · exact .stuck (stuck_of_width hWidth rest) hNone
  · exact (spells_one b hWidth).parted hNone
  · exact hRest [b] (.one b hWidth)

theorem Started.parted_append
    {carried : List UInt8}
    (hStarted : Started carried)
    (bytes : List UInt8) :
    Parted (carried ++ bytes) := by
  induction bytes generalizing carried with
  | nil =>
      rw [List.append_nil]
      exact .short hStarted
  | cons b rest ih =>
      have hRest :
          ∀ seen, Started seen → Parted (seen ++ rest) :=
        fun _ hSeen => ih hSeen
      by_cases hCarried : carried = []
      · subst hCarried
        exact parted_cons b hRest
      · cases hContinues : continues carried b with
        | true =>
            exact hStarted.parted_of_continues hContinues hRest
        | false =>
            -- the byte is read afresh, with nothing carried
            exact
              .stuck
                (hStarted.stuck hCarried hContinues rest)
                (parted_cons b hRest)

theorem parted (bytes : List UInt8) : Parted bytes :=
  Started.none.parted_append bytes

end Utf8

end EventFeed

------------------------------------------------------------
-- Decoding Is Lossy Decoding
------------------------------------------------------------

namespace EventFeed

namespace Utf8

/- What a decoder carries has begun a character. -/
theorem started_decode (bytes : List UInt8) :
    Started (decode [] bytes).2 := by
  induction parted bytes with
  | char c _ ih =>
      rw [decode_append, (spells_encode c).decode_eq]
      exact ih
  | stuck hStuck _ ih =>
      rw [hStuck.decode]
      exact ih
  | short hStarted =>
      rw [hStarted.decode_eq]
      exact hStarted

/- Bytes still carried at the end cost one replacement. -/
theorem decodeAll_eq (bytes : List UInt8) :
    decodeAll bytes =
      (decode [] bytes).1 ++
        if (decode [] bytes).2 = [] then []
        else [replacement] := by
  unfold decodeAll
  dsimp only
  split
  · next hCarried => simp [hCarried]
  · next hCarried => simp [hCarried]

/- The decoder settles what lossy decoding makes of bytes. -/
theorem lossy_decodeAll (bytes : List UInt8) :
    Lossy bytes (decodeAll bytes) := by
  simp only [decodeAll_eq]
  induction parted bytes with
  | char c _ ih =>
      rw [decode_append, (spells_encode c).decode_eq]
      exact .char c ih
  | stuck hStuck _ ih =>
      rw [hStuck.decode]
      exact .broken hStuck.broken ih
  | @short carried hStarted =>
      rw [hStarted.decode_eq]
      by_cases hCarried : carried = []
      · rw [if_pos hCarried, hCarried]
        exact .nil
      · rw [if_neg hCarried]
        have hLossy :=
          Lossy.broken (hStarted.broken hCarried) .nil
        rw [List.append_nil] at hLossy
        exact hLossy

/- What bytes start with leaves no choice. -/
theorem Broken.length_eq
    {part rest part' rest' : List UInt8}
    (hBroken : Broken part rest)
    (hBroken' : Broken part' rest')
    (hBytes : part ++ rest = part' ++ rest') :
    part.length = part'.length := by
  have hPart : part <+: part' ++ rest' :=
    hBytes ▸ List.prefix_append part rest
  have hPart' : part' <+: part ++ rest :=
    hBytes ▸ List.prefix_append part' rest'
  have hPositive := List.length_pos_iff.mpr hBroken.nonempty
  have hPositive' := List.length_pos_iff.mpr hBroken'.nonempty
  have hLe : part.length ≤ part'.length := by
    rcases hBroken.begins with hBegins | hOne
    · exact hBroken'.longest part hPart hBegins
    · omega
  have hGe : part'.length ≤ part.length := by
    rcases hBroken'.begins with hBegins | hOne
    · exact hBroken.longest part' hPart' hBegins
    · omega
  omega

/- Bytes have one lossy decoding. -/
theorem lossy_unique
    {bytes : List UInt8}
    {text text' : List Char}
    (hText : Lossy bytes text)
    (hText' : Lossy bytes text') :
    text = text' := by
  induction hText generalizing text' with
  | nil =>
      generalize hBytes : ([] : List UInt8) = bytes at hText'
      cases hText' with
      | nil => rfl
      | char c _ =>
          have hNil := (List.append_eq_nil_iff.mp hBytes.symm).1
          exact absurd hNil (encode_ne_nil c)
      | broken hBroken _ =>
          have hNil := (List.append_eq_nil_iff.mp hBytes.symm).1
          exact absurd hNil hBroken.nonempty
  | @char c rest text hRest ih =>
      generalize hBytes : encode c ++ rest = bytes at hText'
      cases hText' with
      | nil =>
          have hNil := (List.append_eq_nil_iff.mp hBytes).1
          exact absurd hNil (encode_ne_nil c)
      | @char c' rest' text' hRest' =>
          have hFirst := congrArg (strict []) hBytes
          rw [(spells_encode c).strict_append,
            (spells_encode c').strict_append] at hFirst
          obtain ⟨rfl, _⟩ :=
            List.cons_eq_cons.mp (congrArg Prod.fst hFirst)
          obtain rfl := List.append_cancel_left hBytes
          rw [ih hRest']
      | broken hBroken _ =>
          have hPrefix := List.prefix_append (encode c) rest
          rw [hBytes] at hPrefix
          exact absurd hPrefix (hBroken.spells c)
  | @broken part rest text hBroken hRest ih =>
      generalize hBytes : part ++ rest = bytes at hText'
      cases hText' with
      | nil =>
          have hNil := (List.append_eq_nil_iff.mp hBytes).1
          exact absurd hNil hBroken.nonempty
      | @char c' rest' text' hRest' =>
          have hPrefix := List.prefix_append (encode c') rest'
          rw [← hBytes] at hPrefix
          exact absurd hPrefix (hBroken.spells c')
      | @broken part' rest' text' hBroken' hRest' =>
          have hLength := hBroken.length_eq hBroken' hBytes
          obtain ⟨_, rfl⟩ := List.append_inj hBytes hLength
          rw [ih hRest']

/- Lossy decoding is what a decoder comes to. -/
theorem lossy_iff
    (bytes : List UInt8)
    (text : List Char) :
    Lossy bytes text ↔ text = decodeAll bytes := by
  constructor
  · intro hText
    exact lossy_unique hText (lossy_decodeAll bytes)
  · rintro rfl
    exact lossy_decodeAll bytes

end Utf8

end EventFeed

------------------------------------------------------------
-- Reading Up to Each Fault
------------------------------------------------------------

namespace EventFeed

namespace Utf8

/- A character in front is read by the first reading. -/
theorem sweep_encode
    (n : Nat)
    (c : Char)
    (rest : List UInt8) :
    sweep n (encode c ++ rest) =
      (sweep n rest).map fun more =>
        (c :: more.1, more.2) := by
  cases n with
  | zero => rfl
  | succ n =>
      rw [sweep, sweep, (spells_encode c).strict_append]
      dsimp only
      cases badLength? [] (strict [] rest).2 with
      | none => rfl
      | some k => simp [Function.comp_def]

/-
  Reading strictly up to one fault after the other ends, for
  each fault leaves fewer bytes, and it comes to what the
  decoder makes of the bytes one by one.
-/
theorem sweep_eq_decode
    {n : Nat}
    {bytes : List UInt8}
    (hLength : bytes.length < n) :
    sweep n bytes = some (decode [] bytes) := by
  induction parted bytes generalizing n with
  | char c _ ih =>
      rw [List.length_append] at hLength
      rw [sweep_encode, ih (by omega), decode_append,
        (spells_encode c).decode_eq]
      rfl
  | @stuck part rest hStuck _ ih =>
      have hPart := List.length_pos_iff.mpr hStuck.broken.nonempty
      rw [List.length_append] at hLength
      cases n with
      | zero => omega
      | succ n =>
          have hRest : rest.length < n := by omega
          rw [sweep, hStuck.strict, hStuck.decode]
          dsimp only
          rw [hStuck.bad]
          dsimp only
          rw [List.drop_left, ih hRest]
          rfl
  | @short carried hStarted =>
      cases n with
      | zero => omega
      | succ n =>
          have hStrict : strict [] carried = ([], carried) := by
            simpa [strict] using hStarted.strict_append []
          have hBad : badLength? [] carried = none := by
            simpa [badLength?] using hStarted.badLength?_append []
          rw [sweep, hStrict, hStarted.decode_eq]
          dsimp only
          rw [hBad]

/- It may start from what an earlier chunk left. -/
theorem sweep_carried
    {carried : List UInt8}
    (hStarted : Started carried)
    (chunk : List UInt8) :
    sweep ((carried ++ chunk).length + 1) (carried ++ chunk) =
      some (decode carried chunk) := by
  rw [sweep_eq_decode (Nat.lt_succ_self _),
    hStarted.decode_append]

end Utf8

end EventFeed

------------------------------------------------------------
-- Encoded Texts
------------------------------------------------------------

namespace EventFeed

namespace Utf8

/- Characters are encoded as the strings of Lean hold them. -/
theorem encode_eq_utf8EncodeChar (c : Char) :
    encode c = String.utf8EncodeChar c := by
  have hBounds := toNat_bounds c
  have hNumber : c.val.toNat = c.toNat := rfl
  unfold encode String.utf8EncodeChar
  dsimp only
  rw [hNumber]
  generalize c.toNat = n at hBounds
  by_cases hOne : n < 0x80
  · have hOne' : n ≤ 127 := by omega
    rw [if_pos hOne, if_pos hOne']
  · have hOne' : ¬ n ≤ 127 := by omega
    rw [if_neg hOne, if_neg hOne']
    by_cases hTwo : n < 0x800
    · have hTwo' : n ≤ 2047 := by omega
      have hLead : 0xc0 + n / 0x40 = n / 64 % 32 + 192 := by
        omega
      rw [if_pos hTwo, if_pos hTwo', hLead, Nat.add_comm 0x80]
    · have hTwo' : ¬ n ≤ 2047 := by omega
      rw [if_neg hTwo, if_neg hTwo']
      by_cases hThree : n < 0x10000
      · have hThree' : n ≤ 65535 := by omega
        have hLead :
            0xe0 + n / 0x1000 = n / 4096 % 16 + 224 := by
          omega
        rw [if_pos hThree, if_pos hThree', hLead,
          Nat.add_comm 0x80, Nat.add_comm 0x80]
      · have hThree' : ¬ n ≤ 65535 := by omega
        have hLead :
            0xf0 + n / 0x40000 = n / 262144 % 8 + 240 := by
          omega
        rw [if_neg hThree, if_neg hThree', hLead,
          Nat.add_comm 0x80, Nat.add_comm 0x80,
          Nat.add_comm 0x80]

theorem toUTF8_eq (s : String) :
    s.toUTF8.data.toList = encodeText s.toList := by
  have hBytes : s.toList.utf8Encode = s.toUTF8 :=
    String.utf8Encode_toList
  rw [← hBytes, List.utf8Encode, List.toList_data_toByteArray,
    encodeText, ← funext encode_eq_utf8EncodeChar]

end Utf8

end EventFeed
