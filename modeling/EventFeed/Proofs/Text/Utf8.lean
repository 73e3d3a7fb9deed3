import EventFeed.Text.Utf8

/-
  This file proves that the decoder, and strict reading as
  well, read back what the encoder writes.

  A character falls into one of four classes by its number,
  and each class has its own shape of bytes.  The bounds of a
  class are just those that keep its second byte within the
  range that its lead byte allows, so the decoder carries the
  bytes on to the last one and then spells the character.

  Key definitions include:
    * `Utf8.Spells`

  Key results include:
    * `Utf8.spells_encode`
    * `Utf8.decode_encodeText`
    * `Utf8.strict_encodeText`
-/

------------------------------------------------------------
-- Bytes of a Character
------------------------------------------------------------

namespace EventFeed

namespace Utf8

/- Whether a byte may stand third or fourth. -/
def isTail (b : UInt8) : Bool :=
  0x80 ≤ b && b ≤ 0xbf

variable {a b c d : UInt8}

theorem value_two :
    value [a, b] =
      (a.toNat - 0xc0) * 0x40 + (b.toNat - 0x80) :=
  rfl

theorem value_three :
    value [a, b, c] =
      (a.toNat - 0xe0) * 0x1000 + (b.toNat - 0x80) * 0x40 +
        (c.toNat - 0x80) :=
  rfl

theorem value_four :
    value [a, b, c, d] =
      (a.toNat - 0xf0) * 0x40000 + (b.toNat - 0x80) * 0x1000 +
        (c.toNat - 0x80) * 0x40 + (d.toNat - 0x80) :=
  rfl

/-
  The bytes of a character, in one of four shapes: the lead
  byte announces how many there are, and all of them together
  have the number of the character for a value.
-/
inductive Spells (c : Char) : List UInt8 → Prop
  | one
      (a : UInt8)
      (hWidth : width a = 1)
      (hValue : a.toNat = c.toNat) :
      Spells c [a]
  | two
      (a b : UInt8)
      (hWidth : width a = 2)
      (hSecond : secondOk a b = true)
      (hValue : value [a, b] = c.toNat) :
      Spells c [a, b]
  | three
      (a b d : UInt8)
      (hWidth : width a = 3)
      (hSecond : secondOk a b = true)
      (hThird : isTail d = true)
      (hValue : value [a, b, d] = c.toNat) :
      Spells c [a, b, d]
  | four
      (a b d e : UInt8)
      (hWidth : width a = 4)
      (hSecond : secondOk a b = true)
      (hThird : isTail d = true)
      (hFourth : isTail e = true)
      (hValue : value [a, b, d, e] = c.toNat) :
      Spells c [a, b, d, e]

namespace Spells

variable {c : Char}
variable {bytes : List UInt8}

/- The decoder carries the bytes on to the last one. -/
theorem decode_eq
    (hSpells : Spells c bytes) :
    decode [] bytes = ([c], []) := by
  cases hSpells with
  | one a hWidth hValue =>
      simp [decode, push, start, hWidth, hValue]
  | two a b hWidth hSecond hValue =>
      simp [decode, push, start, hWidth, continues, hSecond,
        hValue]
  | three a b d hWidth hSecond hThird hValue =>
      unfold isTail at hThird
      simp [decode, push, start, hWidth, continues, hSecond,
        hThird, hValue]
  | four a b d e hWidth hSecond hThird hFourth hValue =>
      unfold isTail at hThird hFourth
      simp [decode, push, start, hWidth, continues, hSecond,
        hThird, hFourth, hValue]

/- Strict reading goes on after them. -/
theorem strict_append
    (hSpells : Spells c bytes)
    (rest : List UInt8) :
    strict [] (bytes ++ rest) =
      (c :: (strict [] rest).1, (strict [] rest).2) := by
  cases hSpells with
  | one a hWidth hValue => simp [strict, hWidth, hValue]
  | two a b hWidth hSecond hValue =>
      simp [strict, hWidth, continues, hSecond, hValue]
  | three a b d hWidth hSecond hThird hValue =>
      unfold isTail at hThird
      simp [strict, hWidth, continues, hSecond, hThird, hValue]
  | four a b d e hWidth hSecond hThird hFourth hValue =>
      unfold isTail at hThird hFourth
      simp [strict, hWidth, continues, hSecond, hThird, hFourth,
        hValue]

end Spells

end Utf8

end EventFeed

------------------------------------------------------------
-- Bytes as Numbers
------------------------------------------------------------

namespace EventFeed

namespace Utf8

variable {n m : Nat}

theorem toNat_ofNat
    (hByte : n < 256) :
    (UInt8.ofNat n).toNat = n :=
  UInt8.toNat_ofNat_of_lt' hByte

/- The width that a lead byte announces, by its number. -/
theorem width_ofNat
    (hByte : n < 256) :
    width (UInt8.ofNat n) =
      if n < 0x80 then 1
      else if n < 0xc2 then 0
      else if n < 0xe0 then 2
      else if n < 0xf0 then 3
      else if n < 0xf5 then 4
      else 0 := by
  simp only [width, UInt8.lt_iff_toNat_lt,
    toNat_ofNat hByte, UInt8.reduceToNat]

/- The range of a second byte, by numbers. -/
theorem secondOk_ofNat
    (hLead : n < 256)
    (hByte : m < 256)
    (hLow : 0x80 ≤ m)
    (hHigh : m ≤ 0xbf)
    (hOverlong : n = 0xe0 → 0xa0 ≤ m)
    (hSurrogate : n = 0xed → m ≤ 0x9f)
    (hShort : n = 0xf0 → 0x90 ≤ m)
    (hLast : n = 0xf4 → m ≤ 0x8f) :
    secondOk (UInt8.ofNat n) (UInt8.ofNat m) = true := by
  simp only [secondOk, beq_iff_eq, ← UInt8.toNat_inj,
    UInt8.le_iff_toNat_le, toNat_ofNat hLead,
    toNat_ofNat hByte, UInt8.reduceToNat]
  grind

theorem isTail_ofNat
    (hLow : 0x80 ≤ n)
    (hHigh : n ≤ 0xbf) :
    isTail (UInt8.ofNat n) = true := by
  have hByte : n < 256 := by omega
  simp only [isTail, UInt8.le_iff_toNat_le,
    toNat_ofNat hByte, UInt8.reduceToNat,
    Bool.and_eq_true, decide_eq_true_eq]
  exact ⟨hLow, hHigh⟩

end Utf8

end EventFeed

------------------------------------------------------------
-- Characters Read Back
------------------------------------------------------------

namespace EventFeed

namespace Utf8

/-
  The bounds on a number that is that of a character: there
  are no surrogates, and a last one.
-/
theorem toNat_bounds (c : Char) :
    c.toNat < 0xd800 ∨
      (0xdfff < c.toNat ∧ c.toNat < 0x110000) :=
  c.valid

theorem spells_encode_one
    {c : Char}
    (hHigh : c.toNat < 0x80) :
    Spells c [UInt8.ofNat c.toNat] := by
  have hByte : c.toNat < 256 := by omega
  apply Spells.one
  · rw [width_ofNat hByte]
    simp [hHigh]
  · exact toNat_ofNat hByte

theorem spells_encode_two
    {c : Char}
    (hLow : 0x80 ≤ c.toNat)
    (hHigh : c.toNat < 0x800) :
    Spells c
      [UInt8.ofNat (0xc0 + c.toNat / 0x40),
        UInt8.ofNat (0x80 + c.toNat % 0x40)] := by
  have hLead : 0xc0 + c.toNat / 0x40 < 256 := by omega
  have hByte : 0x80 + c.toNat % 0x40 < 256 := by omega
  apply Spells.two
  · rw [width_ofNat hLead]
    grind
  · apply secondOk_ofNat hLead hByte <;> omega
  · rw [value_two, toNat_ofNat hLead, toNat_ofNat hByte]
    omega

theorem spells_encode_three
    {c : Char}
    (hLow : 0x800 ≤ c.toNat)
    (hHigh : c.toNat < 0x10000) :
    Spells c
      [UInt8.ofNat (0xe0 + c.toNat / 0x1000),
        UInt8.ofNat (0x80 + c.toNat / 0x40 % 0x40),
        UInt8.ofNat (0x80 + c.toNat % 0x40)] := by
  have hBounds := toNat_bounds c
  have hLead : 0xe0 + c.toNat / 0x1000 < 256 := by omega
  have hByte : 0x80 + c.toNat / 0x40 % 0x40 < 256 := by omega
  have hByte' : 0x80 + c.toNat % 0x40 < 256 := by omega
  apply Spells.three
  · rw [width_ofNat hLead]
    grind
  -- neither overlong nor a surrogate, by the bounds
  · apply secondOk_ofNat hLead hByte <;> omega
  · apply isTail_ofNat <;> omega
  · rw [value_three, toNat_ofNat hLead, toNat_ofNat hByte,
      toNat_ofNat hByte']
    omega

theorem spells_encode_four
    {c : Char}
    (hLow : 0x10000 ≤ c.toNat) :
    Spells c
      [UInt8.ofNat (0xf0 + c.toNat / 0x40000),
        UInt8.ofNat (0x80 + c.toNat / 0x1000 % 0x40),
        UInt8.ofNat (0x80 + c.toNat / 0x40 % 0x40),
        UInt8.ofNat (0x80 + c.toNat % 0x40)] := by
  have hBounds := toNat_bounds c
  have hLead : 0xf0 + c.toNat / 0x40000 < 256 := by omega
  have hByte : 0x80 + c.toNat / 0x1000 % 0x40 < 256 := by omega
  have hByte' : 0x80 + c.toNat / 0x40 % 0x40 < 256 := by omega
  have hByte'' : 0x80 + c.toNat % 0x40 < 256 := by omega
  apply Spells.four
  · rw [width_ofNat hLead]
    grind
  -- neither overlong nor past the last one, by the bounds
  · apply secondOk_ofNat hLead hByte <;> omega
  · apply isTail_ofNat <;> omega
  · apply isTail_ofNat <;> omega
  · rw [value_four, toNat_ofNat hLead, toNat_ofNat hByte,
      toNat_ofNat hByte', toNat_ofNat hByte'']
    omega

/- The bytes of a character spell it. -/
theorem spells_encode (c : Char) : Spells c (encode c) := by
  unfold encode
  dsimp only
  split
  · next hOne => exact spells_encode_one hOne
  · next hOne =>
      split
      · next hTwo =>
          exact spells_encode_two (Nat.le_of_not_lt hOne) hTwo
      · next hTwo =>
          split
          · next hThree =>
              exact
                spells_encode_three (Nat.le_of_not_lt hTwo)
                  hThree
          · next hThree =>
              exact spells_encode_four (Nat.le_of_not_lt hThree)

/- The bytes of a text spell it, and none is carried. -/
theorem decode_encodeText (text : List Char) :
    decode [] (encodeText text) = (text, []) := by
  induction text with
  | nil => rfl
  | cons c text ih =>
      have hBytes :
          encodeText (c :: text) = encode c ++ encodeText text :=
        List.flatMap_cons
      rw [hBytes, decode_append, (spells_encode c).decode_eq, ih]
      rfl

/- And strict reading finds no fault with them. -/
theorem strict_encodeText (text : List Char) :
    strict [] (encodeText text) = (text, []) := by
  induction text with
  | nil => rfl
  | cons c text ih =>
      have hBytes :
          encodeText (c :: text) = encode c ++ encodeText text :=
        List.flatMap_cons
      rw [hBytes, (spells_encode c).strict_append, ih]

end Utf8

end EventFeed
