import EventFeed.Json.Printer
import EventFeed.Json.Reader
import EventFeed.Proofs.Json.Syntax

/-
  This file proves that the compact text of a value spells
  the outline of that value.

  A string is written glyph by glyph: a control character
  without a shorter form becomes a unit, and any other one
  stays a character.  So the text in quotes makes up the
  string again.  A value is normal when its numbers have
  digits where they must, no name comes twice in an object and
  no object starts with the mark of a number.

  Key definitions include:
    * `Json.outline`
    * `Json.Normal`
    * `Json.depth`

  Key results include:
    * `Json.spells_quote`
    * `Json.Normal.spells_compact`
-/

------------------------------------------------------------
-- Strings
------------------------------------------------------------

namespace EventFeed

/- A hexadecimal digit has the value it was written for. -/
theorem Text.hexDigit?_lowerHexDigit
    {n : Nat}
    (hDigit : n < 16) :
    hexDigit? (lowerHexDigit n) = some n := by
  revert n
  decide

namespace Json

/- The characters spell a glyph that makes just this one. -/
def SpellsChar (cs : List Char) (c : Char) : Prop :=
  ∃ g : Glyph,
    g.Spells cs ∧
      ∀ rest,
        Glyph.text? (g :: rest) =
          (Glyph.text? rest).map (c :: ·)

theorem spellsChar_short
    {letter c : Char}
    (hShort : OpenString.shortEscape? letter = some c) :
    SpellsChar ['\\', letter] c :=
  ⟨.char c, .short hShort, fun _ => rfl⟩

/- The number of a control character has two digits. -/
theorem spellsChar_control
    {c : Char}
    (hControl : c < ' ') :
    SpellsChar
      ['\\', 'u', '0', '0',
        Text.lowerHexDigit (c.toNat / 16),
        Text.lowerHexDigit (c.toNat % 16)]
      c := by
  have hSmall : c.toNat < 32 := hControl
  have hHigh : c.toNat / 16 < 16 := by omega
  have hLow : c.toNat % 16 < 16 := by omega
  have hValues :
      ['0', '0', Text.lowerHexDigit (c.toNat / 16),
          Text.lowerHexDigit (c.toNat % 16)].mapM
          Text.hexDigit? =
        some [0, 0, c.toNat / 16, c.toNat % 16] := by
    simp only [List.mapM_cons, List.mapM_nil,
      Text.hexDigit?_lowerHexDigit hHigh,
      Text.hexDigit?_lowerHexDigit hLow]
    rfl
  have hUnit :
      Text.ofDigits 16 [0, 0, c.toNat / 16, c.toNat % 16] =
        c.toNat := by
    simp only [Text.ofDigits, List.foldl_cons, List.foldl_nil]
    omega
  have hLeading : Glyph.isLeading c.toNat = false := by
    simp only [Glyph.isLeading, Bool.and_eq_false_iff,
      decide_eq_false_iff_not]
    omega
  have hTrailing : Glyph.isTrailing c.toNat = false := by
    simp only [Glyph.isTrailing, Bool.and_eq_false_iff,
      decide_eq_false_iff_not]
    omega
  refine ⟨.unit c.toNat, ?_, fun rest => ?_⟩
  · have hSpells := Glyph.Spells.unit rfl hValues
    rwa [hUnit] at hSpells
  · rw [Glyph.text?_unit hLeading, hTrailing, Char.ofNat_toNat]
    rfl

/- A character is written as a glyph that makes it again. -/
theorem spellsChar_escape (c : Char) :
    SpellsChar (escape c) c := by
  unfold escape
  split
  · next hQuote =>
    rw [hQuote]
    exact spellsChar_short rfl
  split
  · next hSlash =>
    rw [hSlash]
    exact spellsChar_short rfl
  split
  · next hBack =>
    rw [hBack]
    exact spellsChar_short rfl
  split
  · next hTab =>
    rw [hTab]
    exact spellsChar_short rfl
  split
  · next hLine =>
    rw [hLine]
    exact spellsChar_short rfl
  split
  · next hFeed =>
    rw [hFeed]
    exact spellsChar_short rfl
  split
  · next hReturn =>
    rw [hReturn]
    exact spellsChar_short rfl
  split
  · next hControl => exact spellsChar_control hControl
  · next hQuote hSlash _ _ _ _ _ hControl =>
    exact ⟨.char c, .plain hControl hQuote hSlash, fun _ => rfl⟩

/- And a text as a row of glyphs. -/
theorem exists_spellAll_escape (cs : List Char) :
    ∃ glyphs,
      Glyph.SpellAll glyphs (cs.flatMap escape) ∧
        Glyph.text? glyphs = some cs := by
  induction cs with
  | nil => exact ⟨[], .nil, rfl⟩
  | cons c cs ih =>
      rcases spellsChar_escape c with ⟨g, hSpells, hText⟩
      rcases ih with ⟨glyphs, hAll, hRest⟩
      refine ⟨g :: glyphs, ?_, ?_⟩
      · rw [List.flatMap_cons]
        exact .cons hSpells hAll
      · rw [hText, hRest]
        rfl

/- The text in quotes spells the string. -/
theorem spells_quote (s : String) :
    (Scalar.string (some s)).Spells (quote s) := by
  rcases exists_spellAll_escape s.toList with
    ⟨glyphs, hAll, hText⟩
  have hSpells := Scalar.Spells.string hAll
  rwa [hText, Option.map_some, String.ofList_toList] at hSpells

------------------------------------------------------------
-- Normal Values
------------------------------------------------------------

mutual

/- The outline of a value. -/
def outline : Json → Outline
  | .null => .scalar .null
  | .bool b => .scalar (.bool b)
  | .number n => .scalar (.number n)
  | .string s => .scalar (.string (some s))
  | .array items => .array (outlines items)
  | .object members => .object (memberOutlines members)

def outlines : List Json → List Outline
  | [] => []
  | v :: rest => outline v :: outlines rest

def memberOutlines :
    List (String × Json) → List (Option String × Outline)
  | [] => []
  | (n, v) :: rest => (some n, outline v) :: memberOutlines rest

end

/- How deep the containers of a value nest. -/
def depth (v : Json) : Nat :=
  v.outline.depth

/-
  The values that a text can give: numbers have digits where
  they must, no name comes twice in an object, and no object
  starts with the mark of a number.
-/
inductive Normal : Json → Prop
  | null : Normal .null
  | bool (b : Bool) : Normal (.bool b)
  | number
      {n : Number}
      (hProper : n.IsProper) :
      Normal (.number n)
  | string (s : String) : Normal (.string s)
  | array
      {items : List Json}
      (hItems : ∀ v ∈ items, Normal v) :
      Normal (.array items)
  | object
      {members : List (String × Json)}
      (hNames : (members.map Prod.fst).Nodup)
      (hFirst :
        (members.map Prod.fst).head? ≠ some numberKey)
      (hMembers : ∀ m ∈ members, Normal m.2) :
      Normal (.object members)

theorem outlines_eq_map (items : List Json) :
    outlines items = items.map outline := by
  induction items with
  | nil => rfl
  | cons v rest ih => rw [outlines, ih, List.map_cons]

theorem memberOutlines_eq_map (members : List (String × Json)) :
    memberOutlines members =
      members.map fun m => (some m.1, m.2.outline) := by
  induction members with
  | nil => rfl
  | cons m rest ih => rw [memberOutlines, ih, List.map_cons]

/- Containers nest one level deeper than their parts. -/
theorem depth_array_le_iff
    {items : List Json}
    {room : Nat} :
    (Json.array items).depth ≤ room + 1 ↔
      ∀ v ∈ items, v.depth ≤ room := by
  rw [depth, outline, Outline.depth, Nat.add_le_add_iff_right,
    Outline.itemsDepth_le_iff, outlines_eq_map,
    List.forall_mem_map]
  rfl

theorem depth_object_le_iff
    {members : List (String × Json)}
    {room : Nat} :
    (Json.object members).depth ≤ room + 1 ↔
      ∀ m ∈ members, m.2.depth ≤ room := by
  rw [depth, outline, Outline.depth, Nat.add_le_add_iff_right,
    Outline.membersDepth_le_iff, memberOutlines_eq_map,
    List.forall_mem_map]
  rfl

------------------------------------------------------------
-- Compact Texts
------------------------------------------------------------

theorem spellAll_itemsTail
    {items : List Json}
    (hItems :
      ∀ v ∈ items, Token.SpellAll v.outline.tokens v.chars) :
    Token.SpellAll
      (Outline.itemsTokens (outlines items))
      (itemsTail items) := by
  induction items with
  | nil => exact .cons (.mark rfl) .nil
  | cons v rest ih =>
      rw [List.forall_mem_cons] at hItems
      rcases hItems with ⟨hFirst, hRest⟩
      exact .cons (.mark rfl) (hFirst.append (ih hRest))

/- A name with its colon stands before the value. -/
theorem spellAll_member
    (n : String)
    {tokens : List Token}
    {cs : List Char}
    (hValue : Token.SpellAll tokens cs) :
    Token.SpellAll
      (.scalar (.string (some n)) :: .colon :: tokens)
      (quote n ++ ':' :: cs) :=
  .cons (.scalar (spells_quote n)) (.cons (.mark rfl) hValue)

theorem spellAll_membersTail
    {members : List (String × Json)}
    (hMembers :
      ∀ m ∈ members,
        Token.SpellAll m.2.outline.tokens m.2.chars) :
    Token.SpellAll
      (Outline.membersTokens (memberOutlines members))
      (membersTail members) := by
  induction members with
  | nil => exact .cons (.mark rfl) .nil
  | cons m rest ih =>
      rcases m with ⟨n, v⟩
      rw [List.forall_mem_cons] at hMembers
      rcases hMembers with ⟨hFirst, hRest⟩
      have hMember :=
        spellAll_member n (hFirst.append (ih hRest))
      exact .cons (.mark rfl) hMember

/- The compact text of a value spells its outline. -/
theorem Normal.spellAll_chars
    {v : Json}
    (hNormal : v.Normal) :
    Token.SpellAll v.outline.tokens v.chars := by
  induction hNormal with
  | null => exact (Token.Spells.scalar .null).all
  | bool b =>
      cases b with
      | true => exact (Token.Spells.scalar .true).all
      | false => exact (Token.Spells.scalar .false).all
  | number hProper =>
      have hDigits := Number.spells_chars hProper
      exact (Token.Spells.scalar (.number hDigits)).all
  | string s => exact (Token.Spells.scalar (spells_quote s)).all
  | @array items _ ih =>
      cases items with
      | nil => exact .cons (.mark rfl) (.cons (.mark rfl) .nil)
      | cons v rest =>
          rw [List.forall_mem_cons] at ih
          rcases ih with ⟨hFirst, hRest⟩
          have hItems := spellAll_itemsTail hRest
          exact .cons (.mark rfl) (hFirst.append hItems)
  | @object members _ _ _ ih =>
      cases members with
      | nil => exact .cons (.mark rfl) (.cons (.mark rfl) .nil)
      | cons m rest =>
          rcases m with ⟨n, v⟩
          rw [List.forall_mem_cons] at ih
          rcases ih with ⟨hFirst, hRest⟩
          have hMembers := spellAll_membersTail hRest
          have hMember :=
            spellAll_member n (hFirst.append hMembers)
          exact .cons (.mark rfl) hMember

theorem Normal.spells_compact
    {v : Json}
    (hNormal : v.Normal) :
    v.outline.Spells v.compact := by
  rw [Outline.Spells, compact, String.toList_ofList]
  exact hNormal.spellAll_chars

end Json

end EventFeed
