import EventFeed.Payload
import EventFeed.Proofs.Json.Reading

/-
  This file says what the data of an event is decoded to.

  Data is structured just when it spells an outline that has
  an object or an array for its value.  The compact text of a
  normal container decodes to that container, member by member
  and digit by digit.  What was decoded once is normal, so it
  survives being written and decoded again.  All other data
  stays the text that it was.

  Key definitions include:
    * `Payload.SpellsContainer`

  Key results include:
    * `Payload.decode_eq_structured_iff`
    * `Payload.decode_exact`
-/

------------------------------------------------------------
-- Structured Data
------------------------------------------------------------

namespace EventFeed

namespace Payload

open Json (Outline maxDepth)

/-
  The texts of objects and arrays: all strings in them spell
  a text, and they do not nest too deep.
-/
def SpellsContainer (text : String) : Prop :=
  ∃ o : Outline,
    o.Spells text ∧ o.IsReadable ∧ o.depth ≤ maxDepth ∧
      o.isContainer = true

variable {text more : String}
variable {o : Outline}
variable {v : Json}

theorem decode_eq_structured_iff :
    decode text = structured v ↔
      v.isContainer = true ∧
        ∃ o : Outline, o.Spells text ∧
          Json.ofOutline? maxDepth o = some v := by
  have hParse :
      Json.parse? text = some v ↔
        ∃ o : Outline, o.Spells text ∧
          Json.ofOutline? maxDepth o = some v := by
    simp only [Json.parse?, Option.bind_eq_some_iff,
      Outline.parse?_eq_some_iff]
  rw [← hParse, decode]
  cases Json.parse? text with
  | none => simp
  | some w =>
      by_cases hContainer : w.isContainer = true
      · simp only [if_pos hContainer, Payload.structured.injEq,
          Option.some.injEq]
        constructor
        · rintro rfl
          exact ⟨hContainer, rfl⟩
        · exact And.right
      · simp only [if_neg hContainer, Option.some.injEq]
        constructor
        · intro hRaw
          cases hRaw
        · rintro ⟨hOther, rfl⟩
          exact absurd hOther hContainer

/- What is not structured is raw. -/
theorem decode_eq_raw_iff :
    decode text = raw text ↔
      ∀ v, decode text ≠ structured v := by
  constructor
  · intro hRaw v hStructured
    rw [hRaw] at hStructured
    cases hStructured
  · intro hOther
    unfold decode at hOther ⊢
    split
    · next v hParse =>
      rw [hParse] at hOther
      split
      · next hContainer =>
        have hSame := hOther v
        simp only [if_pos hContainer, ne_eq,
          not_true_eq_false] at hSame
      · rfl
    · rfl

/- The texts of containers are structured data. -/
theorem exists_structured_iff :
    (∃ v, decode text = structured v) ↔
      SpellsContainer text := by
  constructor
  · rintro ⟨v, hDecode⟩
    rcases decode_eq_structured_iff.mp hDecode with
      ⟨hContainer, o, hSpells, hValue⟩
    rcases Json.isReadable_of_ofOutline? hValue with
      ⟨hReadable, hDepth⟩
    refine ⟨o, hSpells, hReadable, hDepth, ?_⟩
    rwa [← Json.isContainer_of_ofOutline? hValue]
  · rintro ⟨o, hSpells, hReadable, hDepth, hContainer⟩
    rcases Json.exists_ofOutline? hReadable hDepth with
      ⟨v, hValue⟩
    refine ⟨v, decode_eq_structured_iff.mpr ⟨?_, o, hSpells, ?_⟩⟩
    · rwa [Json.isContainer_of_ofOutline? hValue]
    · exact hValue

/- All other texts stay as they are. -/
theorem decode_of_not_spellsContainer
    (hOther : ¬SpellsContainer text) :
    decode text = raw text := by
  refine decode_eq_raw_iff.mpr fun v hDecode => ?_
  exact hOther (exists_structured_iff.mp ⟨v, hDecode⟩)

/- A text spells at most one outline. -/
theorem SpellsContainer.of_spells
    (hContainer : SpellsContainer text)
    (hSpells : o.Spells text) :
    o.IsReadable ∧ o.depth ≤ maxDepth ∧
      o.isContainer = true := by
  rcases hContainer with ⟨o', hSpells', hRest⟩
  have hParse := Outline.parse?_eq_some_iff.mpr hSpells
  rw [Outline.parse?_eq_some_iff.mpr hSpells'] at hParse
  obtain rfl := Option.some.inj hParse
  exact hRest

------------------------------------------------------------
-- Values That Come Back
------------------------------------------------------------

/- The compact text of a normal container decodes to it. -/
theorem decode_compact
    (hContainer : v.isContainer = true)
    (hNormal : v.Normal)
    (hDepth : v.depth ≤ maxDepth) :
    decode v.compact = structured v :=
  decode_eq_structured_iff.mpr
    ⟨hContainer, v.outline, hNormal.spells_compact,
      hNormal.ofOutline?_outline hDepth⟩

/- What was decoded is a normal container. -/
theorem normal_of_decode
    (hDecode : decode text = structured v) :
    v.isContainer = true ∧ v.Normal ∧ v.depth ≤ maxDepth := by
  rcases decode_eq_structured_iff.mp hDecode with
    ⟨hContainer, o, hSpells, hValue⟩
  have hProper :
      ∀ n, .scalar (.number n) ∈ o.tokens → n.IsProper :=
    fun _ hMember => hSpells.isProper hMember
  exact ⟨hContainer, Json.normal_of_ofOutline? hValue hProper⟩

------------------------------------------------------------
-- Texts That Stay
------------------------------------------------------------

/- Nothing but blanks may follow a container. -/
theorem not_spellsContainer_append
    (hSpells : o.Spells text)
    (hMore : ¬Json.IsBlanks more.toList) :
    ¬SpellsContainer (text ++ more) := by
  rintro ⟨o', hSpells', _, _, hContainer⟩
  have hKind := Outline.isScalar_of_append hSpells hSpells'
  cases hScalar : o.isScalar with
  | true =>
      rw [hScalar] at hKind
      cases o' with
      | scalar s => cases hContainer
      | array items => cases hKind
      | object members => cases hKind
  | false =>
      have hNone := Outline.parse?_append hSpells hScalar hMore
      rw [Outline.parse?_eq_some_iff.mpr hSpells'] at hNone
      cases hNone

/-
  Decoding is exact: every container that a text can give
  comes back from its compact text, and a decoded container
  is one of them.  A text that spells no container is kept.
  Such are texts of scalars, texts that spell nothing, texts
  with something left behind the value, texts that nest too
  deep, and texts with a surrogate that has no partner.
-/
theorem decode_exact :
    (∀ v : Json,
      v.isContainer = true → v.Normal → v.depth ≤ maxDepth →
        decode v.compact = structured v) ∧
    (∀ text v,
      decode text = structured v →
        v.isContainer = true ∧ v.Normal ∧ v.depth ≤ maxDepth ∧
          decode v.compact = structured v) ∧
    (∀ text,
      (SpellsContainer text ∧
          ∃ v, decode text = structured v) ∨
        (¬SpellsContainer text ∧ decode text = raw text)) ∧
    (∀ (text : String) (o : Outline),
      o.Spells text →
        (o.isContainer = false → decode text = raw text) ∧
        (maxDepth < o.depth → decode text = raw text) ∧
        (.scalar (.string none) ∈ o.tokens →
          decode text = raw text) ∧
        ∀ more : String,
          ¬Json.IsBlanks more.toList →
            decode (text ++ more) = raw (text ++ more)) ∧
    (∀ text : String,
      (∀ o : Outline, ¬o.Spells text) →
        decode text = raw text) := by
  refine ⟨fun v => decode_compact, ?_, ?_, ?_, ?_⟩
  · intro text v hDecode
    rcases normal_of_decode hDecode with
      ⟨hContainer, hNormal, hDepth⟩
    exact
      ⟨hContainer, hNormal, hDepth,
        decode_compact hContainer hNormal hDepth⟩
  · intro text
    by_cases hContainer : SpellsContainer text
    · exact
        Or.inl
          ⟨hContainer, exists_structured_iff.mpr hContainer⟩
    · exact
        Or.inr
          ⟨hContainer, decode_of_not_spellsContainer hContainer⟩
  · intro text o hSpells
    refine ⟨?_, ?_, ?_, ?_⟩
    · intro hScalar
      refine decode_of_not_spellsContainer fun hContainer => ?_
      have hParts := hContainer.of_spells hSpells
      simp [hScalar] at hParts
    · intro hDeep
      refine decode_of_not_spellsContainer fun hContainer => ?_
      exact
        absurd (hContainer.of_spells hSpells).2.1
          (Nat.not_le_of_lt hDeep)
    · intro hAlone
      refine decode_of_not_spellsContainer fun hContainer => ?_
      exact
        (hContainer.of_spells hSpells).1.notMem_tokens hAlone
    · intro more hMore
      exact
        decode_of_not_spellsContainer
          (not_spellsContainer_append hSpells hMore)
  · intro text hMalformed
    refine decode_of_not_spellsContainer ?_
    rintro ⟨o, hSpells, _⟩
    exact hMalformed o hSpells

/-
  A container with digits, escapes and the mark of a number
  behind another name comes back, but not with something left
  behind it.  Nor is data structured whose string has half of
  a surrogate pair.
-/
theorem decode_exact_of_marks :
    ∃ v : Json,
      v =
        .object
          [("b",
            .array
              [.number ⟨true, ['0'], some ['5', '0'], none⟩,
                .string "\x01\"é"]),
            (Json.numberKey, .null)] ∧
        v.isContainer = true ∧ v.Normal ∧ v.depth ≤ maxDepth ∧
        decode v.compact = structured v ∧
        decode (v.compact ++ " !") = raw (v.compact ++ " !") ∧
        decode "[\"\\ud800\"]" = raw "[\"\\ud800\"]" := by
  refine ⟨_, rfl, rfl, ?_⟩
  have hNormal :
      Json.Normal
        (.object
          [("b",
            .array
              [.number ⟨true, ['0'], some ['5', '0'], none⟩,
                .string "\x01\"é"]),
            (Json.numberKey, .null)]) := by
    refine .object (by decide) (by decide) ?_
    simp only [List.forall_mem_cons]
    refine ⟨.array ?_, .null, List.forall_mem_nil _⟩
    simp only [List.forall_mem_cons]
    exact
      ⟨.number (by decide), .string _, List.forall_mem_nil _⟩
  have hMore : ¬Json.IsBlanks " !".toList := by
    intro hBlanks
    exact absurd (hBlanks '!' (by decide)) (by decide)
  have hAlone :
      (Outline.array [.scalar (.string none)]).Spells
        "[\"\\ud800\"]" :=
    Outline.parse?_eq_some_iff.mp rfl
  rcases decode_exact with ⟨hBack, _, _, hOthers, _⟩
  have hSpells := hOthers _ _ hNormal.spells_compact
  refine ⟨hNormal, by decide, ?_, ?_, ?_⟩
  · exact hBack _ rfl hNormal (by decide)
  · exact hSpells.2.2.2 _ hMore
  · exact (hOthers _ _ hAlone).2.2.1 (by decide)

end Payload

end EventFeed
