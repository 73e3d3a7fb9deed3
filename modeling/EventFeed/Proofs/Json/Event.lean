import EventFeed.Event.Json
import EventFeed.Proofs.Json.Printing

/-
  This file says which JSON texts describe an event.

  An object describes an event when it has the members type
  and data once each and the member id at most once, whatever
  their order and whatever else it holds.  An array of the
  three describes it too.  These are the only texts that are
  read as an event, and the text that an event is written as
  is one of them.

  The reader goes through the members with three slots.  Each
  slot is left as it was or filled by the only member that has
  its name, so the order of the members has no part in it.

  Key definitions include:
    * `Event.named`
    * `Event.Fills`
    * `Event.HasMembers`
    * `Event.IsDescribedBy`

  Key results include:
    * `Event.Members.addAll?_eq_some_iff`
    * `Event.ofJsonText?_eq_some_iff`
    * `Event.json_round_trip`
-/

------------------------------------------------------------
-- Members of Events
------------------------------------------------------------

namespace EventFeed

namespace Event

open Json (Outline)

/- The outline of a text. -/
def textOutline (text : String) : Outline :=
  .scalar (.string (some text))

/- The outline of an id, which is `null` when there is none. -/
def idOutline : Option String → Outline
  | some id => textOutline id
  | none => .scalar .null

/- The members that have the name. -/
def named
    (name : String)
    (members : List (Option String × Outline)) :
    List (Option String × Outline) :=
  members.filter fun m => m.1 = some name

/-
  The members of an object that describes the event.  The
  other members may be any that have a name.
-/
structure HasMembers
    (e : Event)
    (members : List (Option String × Outline)) : Prop where
  names : ∀ m ∈ members, m.1 ≠ none
  type :
    named "type" members = [(some "type", textOutline e.type)]
  data :
    named "data" members = [(some "data", textOutline e.data)]
  id :
    named "id" members = [(some "id", idOutline e.id)] ∨
      (e.id = none ∧ named "id" members = [])

/- The outlines that describe the event. -/
inductive IsDescribedBy (e : Event) : Outline → Prop
  | object
      {members : List (Option String × Outline)}
      (hMembers : e.HasMembers members) :
      IsDescribedBy e (.object members)
  | array :
      IsDescribedBy e
        (.array
          [textOutline e.type, textOutline e.data,
            idOutline e.id])

theorem textOf?_eq_some_iff
    {o : Outline}
    {text : String} :
    textOf? o = some text ↔ o = textOutline text := by
  constructor
  · intro hText
    unfold textOf? at hText
    split at hText
    · rw [hText]
      rfl
    · contradiction
  · rintro rfl
    rfl

theorem idOf?_eq_some_iff
    {o : Outline}
    {id : Option String} :
    idOf? o = some id ↔ o = idOutline id := by
  constructor
  · intro hId
    unfold idOf? at hId
    split at hId
    · obtain rfl := Option.some.inj hId
      rfl
    · rcases Option.map_eq_some_iff.mp hId with
        ⟨text, hText, rfl⟩
      exact textOf?_eq_some_iff.mp hText
  · rintro rfl
    cases id <;> rfl

------------------------------------------------------------
-- Slots
------------------------------------------------------------

/-
  What a slot holds before and after the members: it is kept
  when none of them has its name, and filled by the only one
  that has.
-/
inductive Fills
    {α : Type}
    (read : Outline → Option α)
    (name : String)
    (members : List (Option String × Outline)) :
    Option α → Option α → Prop
  | kept
      (x : Option α)
      (hNone : named name members = []) :
      Fills read name members x x
  | filled
      {value : Outline}
      {x : α}
      (hOne : named name members = [(some name, value)])
      (hRead : read value = some x) :
      Fills read name members none (some x)

section Slots

variable {α : Type}
variable {read : Outline → Option α}
variable {name : String}
variable {m : Option String × Outline}
variable {value : Outline}
variable {members : List (Option String × Outline)}
variable {before after : Option α}

theorem fills_nil :
    Fills read name [] before after ↔ before = after := by
  constructor
  · intro hFills
    cases hFills with
    | kept => rfl
    | filled hOne => cases hOne
  · rintro rfl
    exact .kept before rfl

theorem named_cons_of_ne (hOther : m.1 ≠ some name) :
    named name (m :: members) = named name members := by
  rw [named, List.filter_cons_of_neg (by simpa using hOther)]
  rfl

theorem named_cons_self :
    named name ((some name, value) :: members) =
      (some name, value) :: named name members := by
  rw [named, List.filter_cons_of_pos (by simp)]
  rfl

/- A member with another name leaves the slot. -/
theorem fills_cons_of_ne
    (name : String)
    (hOther : m.1 ≠ some name) :
    Fills read name (m :: members) before after ↔
      Fills read name members before after := by
  have hSame : named name (m :: members) = named name members :=
    named_cons_of_ne hOther
  constructor
  · intro hFills
    cases hFills with
    | kept _ hNone => exact .kept _ (hSame ▸ hNone)
    | filled hOne hRead => exact .filled (hSame ▸ hOne) hRead
  · intro hFills
    cases hFills with
    | kept _ hNone => exact .kept _ (hSame ▸ hNone)
    | filled hOne hRead => exact .filled (hSame ▸ hOne) hRead

/- A member with its name fills it, and no other may. -/
theorem fills_cons_self :
    Fills read name ((some name, value) :: members) before
        after ↔
      before = none ∧
        ∃ x, read value = some x ∧
          Fills read name members (some x) after := by
  constructor
  · intro hFills
    cases hFills with
    | kept _ hNone =>
        rw [named_cons_self] at hNone
        cases hNone
    | filled hOne hRead =>
        rw [named_cons_self] at hOne
        obtain ⟨hSame, hRest⟩ := List.cons.inj hOne
        obtain rfl := (Prod.mk.inj hSame).2
        exact ⟨rfl, _, hRead, .kept _ hRest⟩
  · rintro ⟨rfl, x, hRead, hFills⟩
    cases hFills with
    | kept _ hNone =>
        refine .filled ?_ hRead
        rw [named_cons_self, hNone]

end Slots

namespace Members

/- A known member fills an empty slot, or nothing is read. -/
theorem addAll?_cons_of_slot
    {α : Type}
    (before : Option α)
    (read : Outline → Option α)
    {fill : α → Members}
    {met : Members}
    {name : String}
    {value : Outline}
    (hAdd :
      met.add? name value =
        if before.isSome then .none
        else (read value).map fill)
    {members : List (Option String × Outline)}
    {result : Members} :
    met.addAll? ((some name, value) :: members) = some result ↔
      before = .none ∧
        ∃ x, read value = some x ∧
          (fill x).addAll? members = some result := by
  rw [addAll?, Option.bind_eq_bind, Option.bind_some, hAdd]
  cases before with
  | some x => simp
  | none => cases read value <;> simp

/- Other members are passed over. -/
theorem addAll?_cons_of_other
    {met : Members}
    {name : String}
    (hType : name ≠ "type")
    (hData : name ≠ "data")
    (hId : name ≠ "id")
    (value : Outline)
    (members : List (Option String × Outline)) :
    met.addAll? ((some name, value) :: members) =
      met.addAll? members := by
  rw [addAll?, Option.bind_eq_bind, Option.bind_some, add?,
    if_neg hType, if_neg hData, if_neg hId]
  rfl

/-
  The members of an object are taken in when they all have a
  name and each slot is left or filled once.
-/
theorem addAll?_eq_some_iff
    {met result : Members}
    {members : List (Option String × Outline)} :
    met.addAll? members = some result ↔
      (∀ m ∈ members, m.1 ≠ .none) ∧
        Fills textOf? "type" members met.type result.type ∧
        Fills textOf? "data" members met.data result.data ∧
        Fills idOf? "id" members met.id result.id := by
  induction members generalizing met with
  | nil =>
      rcases met with ⟨type, data, id⟩
      rcases result with ⟨type', data', id'⟩
      simp [addAll?, fills_nil]
  | cons m rest ih =>
      rcases m with ⟨_ | name, value⟩
      · simp [addAll?]
      have hHead :
          (∀ m ∈ (some name, value) :: rest, m.1 ≠ .none) ↔
            ∀ m ∈ rest, m.1 ≠ .none := by
        simp
      rw [hHead]
      -- a known name fills its own slot and leaves the others
      by_cases hType : name = "type"
      · subst hType
        rw [addAll?_cons_of_slot met.type textOf? rfl,
          fills_cons_self,
          fills_cons_of_ne "data" (by simp),
          fills_cons_of_ne "id" (by simp)]
        simp only [ih]
        constructor
        · rintro ⟨hEmpty, x, hRead, hNames, hFills, hOthers⟩
          exact ⟨hNames, ⟨hEmpty, x, hRead, hFills⟩, hOthers⟩
        · rintro ⟨hNames, ⟨hEmpty, x, hRead, hFills⟩, hOthers⟩
          exact ⟨hEmpty, x, hRead, hNames, hFills, hOthers⟩
      by_cases hData : name = "data"
      · subst hData
        rw [addAll?_cons_of_slot met.data textOf? rfl,
          fills_cons_self,
          fills_cons_of_ne "type" (by simp),
          fills_cons_of_ne "id" (by simp)]
        simp only [ih]
        constructor
        · rintro ⟨hEmpty, x, hRead, hNames, hFirst, hFills, hId⟩
          exact
            ⟨hNames, hFirst, ⟨hEmpty, x, hRead, hFills⟩, hId⟩
        · rintro
            ⟨hNames, hFirst, ⟨hEmpty, x, hRead, hFills⟩, hId⟩
          exact
            ⟨hEmpty, x, hRead, hNames, hFirst, hFills, hId⟩
      by_cases hId : name = "id"
      · subst hId
        rw [addAll?_cons_of_slot met.id idOf? rfl,
          fills_cons_self,
          fills_cons_of_ne "type" (by simp),
          fills_cons_of_ne "data" (by simp)]
        simp only [ih]
        constructor
        · rintro
            ⟨hEmpty, x, hRead, hNames, hFirst, hSecond, hFills⟩
          exact
            ⟨hNames, hFirst, hSecond, hEmpty, x, hRead, hFills⟩
        · rintro
            ⟨hNames, hFirst, hSecond, hEmpty, x, hRead, hFills⟩
          exact
            ⟨hEmpty, x, hRead, hNames, hFirst, hSecond, hFills⟩
      · rw [addAll?_cons_of_other hType hData hId,
          fills_cons_of_ne "type" (by simpa),
          fills_cons_of_ne "data" (by simpa),
          fills_cons_of_ne "id" (by simpa)]
        exact ih

end Members

------------------------------------------------------------
-- Reading Events
------------------------------------------------------------

/- A slot that was empty holds what its only member spells. -/
theorem fills_none_iff
    {α : Type}
    {read : Outline → Option α}
    {name : String}
    {members : List (Option String × Outline)}
    {form : α → Outline}
    (hForm : ∀ {o x}, read o = some x ↔ o = form x)
    {x : α} :
    Fills read name members none (some x) ↔
      named name members = [(some name, form x)] := by
  constructor
  · intro hFills
    cases hFills with
    | filled hOne hRead => rw [hOne, hForm.mp hRead]
  · intro hOne
    exact .filled hOne (hForm.mpr rfl)

/- Just the objects with the members of an event are read. -/
theorem ofOutline?_object_eq_some_iff
    {e : Event}
    {members : List (Option String × Outline)} :
    ofOutline? (.object members) = some e ↔
      e.HasMembers members := by
  constructor
  · intro hEvent
    rcases Option.bind_eq_some_iff.mp hEvent with
      ⟨met, hMet, hParts⟩
    rcases Members.addAll?_eq_some_iff.mp hMet with
      ⟨hNames, hType, hData, hId⟩
    rcases Option.bind_eq_some_iff.mp hParts with
      ⟨type, hSomeType, hMore⟩
    rcases Option.bind_eq_some_iff.mp hMore with
      ⟨data, hSomeData, hSame⟩
    obtain rfl := Option.some.inj hSame
    rw [hSomeType] at hType
    rw [hSomeData] at hData
    refine
      ⟨hNames, (fills_none_iff textOf?_eq_some_iff).mp hType,
        (fills_none_iff textOf?_eq_some_iff).mp hData, ?_⟩
    cases hSlot : met.id with
    | none =>
        rw [hSlot] at hId
        cases hId with
        | kept _ hNone => exact Or.inr ⟨rfl, hNone⟩
    | some id =>
        rw [hSlot] at hId
        exact
          Or.inl ((fills_none_iff idOf?_eq_some_iff).mp hId)
  · rintro ⟨hNames, hType, hData, hId⟩
    have hTypeSlot :=
      (fills_none_iff textOf?_eq_some_iff).mpr hType
    have hDataSlot :=
      (fills_none_iff textOf?_eq_some_iff).mpr hData
    rcases hId with hOne | ⟨hNone, hAbsent⟩
    · have hIdSlot := (fills_none_iff idOf?_eq_some_iff).mpr hOne
      have hMet :
          Members.none.addAll? members =
            some ⟨some e.type, some e.data, some e.id⟩ :=
        Members.addAll?_eq_some_iff.mpr
          ⟨hNames, hTypeSlot, hDataSlot, hIdSlot⟩
      rw [ofOutline?, hMet]
      rfl
    · have hMet :
          Members.none.addAll? members =
            some ⟨some e.type, some e.data, none⟩ :=
        Members.addAll?_eq_some_iff.mpr
          ⟨hNames, hTypeSlot, hDataSlot, .kept _ hAbsent⟩
      rw [ofOutline?, hMet]
      rcases e with ⟨type, data, id⟩
      obtain rfl : id = none := hNone
      rfl

/- Just the outlines that describe an event are read. -/
theorem ofOutline?_eq_some_iff
    {o : Outline}
    {e : Event} :
    ofOutline? o = some e ↔ e.IsDescribedBy o := by
  constructor
  · intro hEvent
    cases o with
    | scalar s => cases hEvent
    | object members =>
        exact .object (ofOutline?_object_eq_some_iff.mp hEvent)
    | array items =>
        unfold ofOutline? at hEvent
        split at hEvent
        · contradiction
        · next type data id hItems =>
          obtain rfl := Outline.array.inj hItems
          rcases Option.bind_eq_some_iff.mp hEvent with
            ⟨t, hType, hMore⟩
          rcases Option.bind_eq_some_iff.mp hMore with
            ⟨d, hData, hRest⟩
          rcases Option.bind_eq_some_iff.mp hRest with
            ⟨i, hId, hSame⟩
          obtain rfl := Option.some.inj hSame
          obtain rfl := textOf?_eq_some_iff.mp hType
          obtain rfl := textOf?_eq_some_iff.mp hData
          obtain rfl := idOf?_eq_some_iff.mp hId
          exact .array
        · contradiction
  · intro hDescribed
    cases hDescribed with
    | object hMembers =>
        exact ofOutline?_object_eq_some_iff.mpr hMembers
    | array =>
        rw [ofOutline?, textOf?_eq_some_iff.mpr rfl,
          textOf?_eq_some_iff.mpr rfl,
          idOf?_eq_some_iff.mpr rfl]
        rfl

/- Just the texts that describe an event are read. -/
theorem ofJsonText?_eq_some_iff
    {text : String}
    {e : Event} :
    ofJsonText? text = some e ↔
      ∃ o : Outline, o.Spells text ∧ e.IsDescribedBy o := by
  simp only [ofJsonText?, Option.bind_eq_some_iff,
    Outline.parse?_eq_some_iff, ofOutline?_eq_some_iff]

/- An event is written as a text that describes it. -/
theorem describes_jsonText (e : Event) :
    e.json.outline.Spells e.jsonText ∧
      e.IsDescribedBy e.json.outline := by
  have hNames : ["type", "data", "id"].Nodup := by decide
  have hFirst : some "type" ≠ some Json.numberKey := by decide
  have hNormal : e.json.Normal := by
    refine .object hNames hFirst ?_
    simp only [List.forall_mem_cons]
    refine ⟨.string _, .string _, ?_, List.forall_mem_nil _⟩
    cases e.id with
    | none => exact .null
    | some id => exact .string id
  refine ⟨hNormal.spells_compact, .object ?_⟩
  refine ⟨by simp [Json.memberOutlines], rfl, rfl, Or.inl ?_⟩
  cases e.id <;> rfl

/-
  An event comes back from its JSON text.  It also comes back
  from any text that spells an object with its members, in any
  order and among any others, and from any text that spells
  the array of the three.
-/
theorem json_round_trip :
    (∀ e : Event, ofJsonText? e.jsonText = some e) ∧
    (∀ (e : Event) (members : List (Option String × Outline))
      (text : String),
      e.HasMembers members →
        (Outline.object members).Spells text →
          ofJsonText? text = some e) ∧
    (∀ (e : Event) (text : String),
      (Outline.array
          [textOutline e.type, textOutline e.data,
            idOutline e.id]).Spells text →
        ofJsonText? text = some e) := by
  refine ⟨fun e => ?_, fun e members text => ?_, fun e text => ?_⟩
  · rcases e.describes_jsonText with ⟨hSpells, hDescribed⟩
    exact
      ofJsonText?_eq_some_iff.mpr ⟨_, hSpells, hDescribed⟩
  · intro hMembers hSpells
    exact
      ofJsonText?_eq_some_iff.mpr
        ⟨_, hSpells, .object hMembers⟩
  · intro hSpells
    exact ofJsonText?_eq_some_iff.mpr ⟨_, hSpells, .array⟩

/-
  The members may come in another order, with blanks, and with
  a member between them that nests and holds a string that
  spells no text.
-/
theorem json_round_trip_of_shuffled :
    HasMembers ⟨"t", "a\nb", none⟩
        [(some "data", textOutline "a\nb"),
          (some "x",
            .array
              [.object [(some "type", .scalar (.string none))]]),
          (some "id", .scalar .null),
          (some "type", textOutline "t")] ∧
      ofJsonText?
          (" \x7b\"data\" : \"a\\nb\", \"x\":[\x7b\"type\":" ++
            "\"\\ud800\"\x7d],\t\"id\":null,\"t\\u0079pe\":" ++
            "\"t\"\x7d\n") =
        some ⟨"t", "a\nb", none⟩ := by
  have hMembers :
      HasMembers ⟨"t", "a\nb", none⟩
        [(some "data", textOutline "a\nb"),
          (some "x",
            .array
              [.object [(some "type", .scalar (.string none))]]),
          (some "id", .scalar .null),
          (some "type", textOutline "t")] :=
    ⟨by simp, rfl, rfl, Or.inl rfl⟩
  refine ⟨hMembers, ?_⟩
  refine json_round_trip.2.1 _ _ _ hMembers ?_
  exact Outline.parse?_eq_some_iff.mp rfl

end Event

end EventFeed
