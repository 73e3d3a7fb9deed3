import EventFeed.Proofs.Json.Printing
import Mathlib.Data.List.Forall2

/-
  This file says which outlines have a value and what it is.

  An outline can be read when all its strings spell a text and
  every object either does not start with the mark of a number
  or is nothing but a marked number.  It has a value where it
  also fits into the room for nesting.  The value is normal,
  it nests no deeper than there is room, and the outline of a
  normal value has just that value.

  Key definitions include:
    * `Json.insertAll`
    * `Json.Outline.IsReadable`
    * `Json.Outline.isContainer`

  Key results include:
    * `Json.isReadable_of_ofOutline?`
    * `Json.exists_ofOutline?`
    * `Json.normal_of_ofOutline?`
    * `Json.Normal.ofOutline?_outline`
-/

------------------------------------------------------------
-- Members of Objects
------------------------------------------------------------

namespace EventFeed

namespace Json

/- Set one member after the other. -/
def insertAll
    (read pairs : List (String × Json)) :
    List (String × Json) :=
  pairs.foldl (fun r p => insertMember p.1 p.2 r) read

variable {name : String}
variable {value : Json}
variable {read pairs : List (String × Json)}

/- A new name comes last. -/
theorem insertMember_of_notMem
    (hNew : name ∉ read.map Prod.fst) :
    insertMember name value read = read ++ [(name, value)] := by
  induction read with
  | nil => rfl
  | cons p rest ih =>
      rw [List.map_cons, List.mem_cons, not_or] at hNew
      rw [insertMember, if_neg (Ne.symm hNew.1), ih hNew.2]
      rfl

/- A name met before leaves all names as they are. -/
theorem names_insertMember_of_mem
    (hOld : name ∈ read.map Prod.fst) :
    (insertMember name value read).map Prod.fst =
      read.map Prod.fst := by
  induction read with
  | nil => cases hOld
  | cons p rest ih =>
      rw [insertMember]
      split
      · rfl
      · next hOther =>
        rw [List.map_cons, List.mem_cons] at hOld
        rcases hOld with hSame | hRest
        · exact absurd hSame.symm hOther
        · rw [List.map_cons, List.map_cons, ih hRest]

theorem nodup_insertMember
    (hNodup : (read.map Prod.fst).Nodup) :
    ((insertMember name value read).map Prod.fst).Nodup := by
  by_cases hOld : name ∈ read.map Prod.fst
  · rwa [names_insertMember_of_mem hOld]
  · rw [insertMember_of_notMem hOld, List.map_append]
    refine List.nodup_append.mpr ⟨hNodup, by simp, ?_⟩
    intro n hMember m hLast
    rw [List.map_singleton, List.mem_singleton] at hLast
    rw [hLast]
    exact ne_of_mem_of_not_mem hMember hOld

/- The name in front stays there. -/
theorem head?_insertMember
    (name : String)
    (value : Json)
    (p : String × Json)
    (read : List (String × Json)) :
    ∃ w rest,
      insertMember name value (p :: read) = (p.1, w) :: rest := by
  rw [insertMember]
  split
  · exact ⟨value, read, rfl⟩
  · exact ⟨p.2, _, rfl⟩

theorem mem_of_mem_insertMember
    {p : String × Json}
    (hMember : p ∈ insertMember name value read) :
    p = (name, value) ∨ p ∈ read := by
  induction read with
  | nil => exact Or.inl (List.mem_singleton.mp hMember)
  | cons q rest ih =>
      rw [insertMember] at hMember
      split at hMember
      · next hSame =>
        rcases List.mem_cons.mp hMember with rfl | hRest
        · exact Or.inl (by rw [hSame])
        · exact Or.inr (List.mem_cons_of_mem _ hRest)
      · rcases List.mem_cons.mp hMember with rfl | hRest
        · exact Or.inr List.mem_cons_self
        · rcases ih hRest with hNew | hOld
          · exact Or.inl hNew
          · exact Or.inr (List.mem_cons_of_mem _ hOld)

theorem nodup_insertAll
    (hNodup : (read.map Prod.fst).Nodup) :
    ((insertAll read pairs).map Prod.fst).Nodup := by
  induction pairs generalizing read with
  | nil => exact hNodup
  | cons p rest ih => exact ih (nodup_insertMember hNodup)

theorem head?_insertAll
    {p : String × Json} :
    ((insertAll (p :: read) pairs).map Prod.fst).head? =
      some p.1 := by
  induction pairs generalizing p read with
  | nil => rfl
  | cons q rest ih =>
      rcases head?_insertMember q.1 q.2 p read with
        ⟨w, others, hFront⟩
      rw [insertAll, List.foldl_cons, hFront]
      exact @ih others (p.1, w)

theorem mem_of_mem_insertAll
    {p : String × Json}
    (hMember : p ∈ insertAll read pairs) :
    p ∈ read ∨ p ∈ pairs := by
  induction pairs generalizing read with
  | nil => exact Or.inl hMember
  | cons q rest ih =>
      rcases ih hMember with hRead | hRest
      · rcases mem_of_mem_insertMember hRead with rfl | hOld
        · exact Or.inr List.mem_cons_self
        · exact Or.inl hOld
      · exact Or.inr (List.mem_cons_of_mem _ hRest)

/- Members with names of their own stay as they are. -/
theorem insertAll_of_nodup
    (hNodup : ((read ++ pairs).map Prod.fst).Nodup) :
    insertAll read pairs = read ++ pairs := by
  induction pairs generalizing read with
  | nil => rw [List.append_nil]; rfl
  | cons p rest ih =>
      have hNew : p.1 ∉ read.map Prod.fst := by
        rw [List.map_append, List.nodup_append] at hNodup
        intro hOld
        exact hNodup.2.2 p.1 hOld p.1 (by simp) rfl
      have hInsert :
          insertAll read (p :: rest) =
            insertAll (read ++ [p]) rest := by
        rw [← insertMember_of_notMem hNew]
        rfl
      rw [hInsert, ih (by simpa using hNodup)]
      simp

------------------------------------------------------------
-- Values of Parts
------------------------------------------------------------

/- The items of an array have their values one by one. -/
theorem itemsOf?_eq_some_iff
    {room : Nat}
    {items : List Outline}
    {values : List Json} :
    itemsOf? room items = some values ↔
      List.Forall₂ (fun o v => ofOutline? room o = some v)
        items values := by
  induction items generalizing values with
  | nil =>
      rw [List.forall₂_nil_left_iff, itemsOf?,
        Option.some.injEq, eq_comm]
  | cons o rest ih =>
      rw [itemsOf?, List.forall₂_cons_left_iff]
      constructor
      · intro hItems
        rcases Option.bind_eq_some_iff.mp hItems with
          ⟨v, hFirst, hMore⟩
        rcases Option.bind_eq_some_iff.mp hMore with
          ⟨others, hRest, hValues⟩
        exact
          ⟨v, others, hFirst, ih.mp hRest,
            (Option.some.inj hValues).symm⟩
      · rintro ⟨v, others, hFirst, hRest, rfl⟩
        rw [hFirst, ih.mpr hRest]
        rfl

/- A member has a name and its value. -/
def IsMember
    (room : Nat)
    (m : Option String × Outline)
    (p : String × Json) : Prop :=
  m.1 = some p.1 ∧ ofOutline? room m.2 = some p.2

/- The members of an object are set one after the other. -/
theorem membersOf?_eq_some_iff
    {room : Nat}
    {members : List (Option String × Outline)}
    {result : List (String × Json)} :
    membersOf? room read members = some result ↔
      ∃ pairs, List.Forall₂ (IsMember room) members pairs ∧
        result = insertAll read pairs := by
  induction members generalizing read with
  | nil =>
      simp only [membersOf?, List.forall₂_nil_left_iff,
        exists_eq_left, Option.some.injEq]
      exact eq_comm
  | cons m rest ih =>
      rw [membersOf?]
      constructor
      · intro hMembers
        rcases Option.bind_eq_some_iff.mp hMembers with
          ⟨name, hName, hMore⟩
        rcases Option.bind_eq_some_iff.mp hMore with
          ⟨value, hValue, hRest⟩
        rcases ih.mp hRest with ⟨pairs, hPairs, rfl⟩
        exact
          ⟨(name, value) :: pairs, .cons ⟨hName, hValue⟩ hPairs,
            rfl⟩
      · rintro ⟨pairs, hPairs, rfl⟩
        cases hPairs with
        | cons hFirst hPairs =>
            rw [hFirst.1, Option.bind_eq_bind, Option.bind_some,
              hFirst.2, Option.bind_eq_bind, Option.bind_some]
            exact ih.mpr ⟨_, hPairs, rfl⟩

/- An object without a mark has the members that are set. -/
theorem ofOutline?_object
    {room : Nat}
    {members : List (Option String × Outline)}
    (hFirst :
      (members.map Prod.fst).head? ≠ some (some numberKey))
    {v : Json} :
    ofOutline? (room + 1) (.object members) = some v ↔
      ∃ pairs, List.Forall₂ (IsMember room) members pairs ∧
        v = .object (insertAll [] pairs) := by
  cases members with
  | nil =>
      simp only [ofOutline?, List.forall₂_nil_left_iff,
        exists_eq_left, Option.some.injEq]
      exact eq_comm
  | cons m rest =>
      have hOther : m.1 ≠ some numberKey := by
        simpa using hFirst
      rw [ofOutline?]
      simp only [if_neg hOther]
      constructor
      · intro hObject
        rcases Option.bind_eq_some_iff.mp hObject with
          ⟨name, hName, hMore⟩
        rcases Option.bind_eq_some_iff.mp hMore with
          ⟨value, hValue, hRest⟩
        rcases Option.bind_eq_some_iff.mp hRest with
          ⟨result, hMembers, hResult⟩
        rcases membersOf?_eq_some_iff.mp hMembers with
          ⟨pairs, hPairs, rfl⟩
        exact
          ⟨(name, value) :: pairs, .cons ⟨hName, hValue⟩ hPairs,
            (Option.some.inj hResult).symm⟩
      · rintro ⟨pairs, hPairs, rfl⟩
        cases hPairs with
        | @cons _ p _ pairs hHead hPairs =>
            have hMembers :
                membersOf? room [(p.1, p.2)] rest =
                  some (insertAll [(p.1, p.2)] pairs) :=
              membersOf?_eq_some_iff.mpr ⟨pairs, hPairs, rfl⟩
            rw [hHead.1, Option.bind_eq_bind, Option.bind_some,
              hHead.2, Option.bind_eq_bind, Option.bind_some,
              hMembers]
            rfl

------------------------------------------------------------
-- Outlines That Can Be Read
------------------------------------------------------------

namespace Outline

/-
  The outlines that can have a value: every string and every
  name spells a text, and an object that starts with the mark
  of a number is nothing but a number.
-/
inductive IsReadable : Outline → Prop
  | scalar
      {s : Scalar}
      (hText : s ≠ .string none) :
      IsReadable (.scalar s)
  | array
      {items : List Outline}
      (hItems : ∀ v ∈ items, IsReadable v) :
      IsReadable (.array items)
  | object
      {members : List (Option String × Outline)}
      (hNames : ∀ m ∈ members, m.1 ≠ none)
      (hFirst :
        (members.map Prod.fst).head? ≠ some (some numberKey))
      (hMembers : ∀ m ∈ members, IsReadable m.2) :
      IsReadable (.object members)
  | marked
      {text : String}
      {n : Number}
      (hNumber : n.Spells text.toList) :
      IsReadable
        (.object
          [(some numberKey, .scalar (.string (some text)))])

/- Whether the outline is one of an object or an array. -/
def isContainer : Outline → Bool
  | .scalar _ => false
  | .array _ => true
  | .object members =>
      (members.map Prod.fst).head? ≠ some (some numberKey)

/- What can be read has no string that spells no text. -/
theorem IsReadable.notMem_tokens
    {o : Outline}
    (hReadable : o.IsReadable) :
    .scalar (.string none) ∉ o.tokens := by
  induction hReadable with
  | scalar hText => simpa [tokens] using Ne.symm hText
  | array hItems ih =>
      rw [scalar_mem_tokens_array]
      rintro ⟨v, hMember, hIn⟩
      exact ih v hMember hIn
  | object hNames hFirst hMembers ih =>
      rw [scalar_mem_tokens_object]
      rintro ⟨m, hMember, hName | hIn⟩
      · exact hNames m hMember (Scalar.string.inj hName).symm
      · exact ih m hMember hIn
  | marked hNumber =>
      simp [tokens, membersTokens]

end Outline

/- A list whose elements have values has a list of values. -/
theorem exists_forall₂
    {α β : Type}
    {R : α → β → Prop}
    {items : List α}
    (hItems : ∀ a ∈ items, ∃ b, R a b) :
    ∃ values, List.Forall₂ R items values := by
  induction items with
  | nil => exact ⟨[], .nil⟩
  | cons a rest ih =>
      rw [List.forall_mem_cons] at hItems
      rcases hItems with ⟨⟨b, hFirst⟩, hRest⟩
      rcases ih hRest with ⟨values, hValues⟩
      exact ⟨b :: values, .cons hFirst hValues⟩

/- And each of them has one in it. -/
theorem exists_of_forall₂
    {α β : Type}
    {R : α → β → Prop}
    {items : List α}
    {values : List β}
    (hValues : List.Forall₂ R items values) :
    (∀ a ∈ items, ∃ b ∈ values, R a b) ∧
      ∀ b ∈ values, ∃ a ∈ items, R a b := by
  induction hValues with
  | nil => simp
  | cons hFirst _ ih =>
      constructor
      · rw [List.forall_mem_cons]
        refine ⟨⟨_, List.mem_cons_self, hFirst⟩, ?_⟩
        intro a hMember
        rcases ih.1 a hMember with ⟨b, hIn, hSome⟩
        exact ⟨b, List.mem_cons_of_mem _ hIn, hSome⟩
      · rw [List.forall_mem_cons]
        refine ⟨⟨_, List.mem_cons_self, hFirst⟩, ?_⟩
        intro b hMember
        rcases ih.2 b hMember with ⟨a, hIn, hSome⟩
        exact ⟨a, List.mem_cons_of_mem _ hIn, hSome⟩

/- An object with a mark is a number or has no value. -/
theorem ofOutline?_marked
    {room : Nat}
    {members : List (Option String × Outline)}
    (hFirst :
      (members.map Prod.fst).head? = some (some numberKey))
    {v : Json} :
    ofOutline? (room + 1) (.object members) = some v ↔
      ∃ text n,
        n.Spells text.toList ∧ v = .number n ∧
          members =
            [(some numberKey, .scalar (.string (some text)))] := by
  rcases members with _ | ⟨⟨name, o⟩, rest⟩
  · cases hFirst
  obtain rfl : name = some numberKey := Option.some.inj hFirst
  rw [ofOutline?]
  simp only [if_true]
  constructor
  · intro hMarked
    cases rest with
    | cons m rest => cases hMarked
    | nil =>
        rw [List.isEmpty_nil, if_pos rfl] at hMarked
        unfold markedNumber? at hMarked
        split at hMarked
        · next text =>
          rcases Option.map_eq_some_iff.mp hMarked with
            ⟨n, hNumber, rfl⟩
          exact
            ⟨text, n, Number.ofChars?_eq_some_iff.mp hNumber,
              rfl, rfl⟩
        · contradiction
  · rintro ⟨text, n, hNumber, rfl, hMembers⟩
    obtain ⟨hSame, rfl⟩ := List.cons.inj hMembers
    obtain rfl := (Prod.mk.inj hSame).2
    rw [List.isEmpty_nil, if_pos rfl, markedNumber?,
      Number.ofChars?_eq_some_iff.mpr hNumber]
    rfl

variable {room : Nat}
variable {o : Outline}
variable {v : Json}

/- What has a value can be read and fits into the room. -/
theorem isReadable_of_ofOutline?
    (hValue : ofOutline? room o = some v) :
    o.IsReadable ∧ o.depth ≤ room := by
  induction o using Outline.induct generalizing room v with
  | scalar s =>
      refine ⟨.scalar ?_, Nat.zero_le room⟩
      rintro rfl
      cases hValue
  | array items ih =>
      cases room with
      | zero => cases hValue
      | succ room =>
          rcases Option.map_eq_some_iff.mp hValue with
            ⟨values, hItems, rfl⟩
          have hParts :=
            (exists_of_forall₂
              (itemsOf?_eq_some_iff.mp hItems)).1
          constructor
          · refine .array fun o hMember => ?_
            rcases hParts o hMember with ⟨w, _, hSome⟩
            exact (ih o hMember hSome).1
          · apply Nat.succ_le_succ
            refine Outline.itemsDepth_le_iff.mpr ?_
            intro o hMember
            rcases hParts o hMember with ⟨w, _, hSome⟩
            exact (ih o hMember hSome).2
  | object members ih =>
      cases room with
      | zero => cases members <;> cases hValue
      | succ room =>
          by_cases hFirst :
              (members.map Prod.fst).head? =
                some (some numberKey)
          · rcases (ofOutline?_marked hFirst).mp hValue with
              ⟨text, n, hNumber, rfl, rfl⟩
            refine ⟨.marked hNumber, ?_⟩
            simp [Outline.depth, Outline.membersDepth]
          · rcases (ofOutline?_object hFirst).mp hValue with
              ⟨pairs, hPairs, rfl⟩
            have hParts := (exists_of_forall₂ hPairs).1
            constructor
            · refine
                .object (fun m hMember => ?_) hFirst
                  fun m hMember => ?_
              · rcases hParts m hMember with ⟨p, _, hName, _⟩
                simp [hName]
              · rcases hParts m hMember with ⟨p, _, _, hSome⟩
                exact (ih m hMember hSome).1
            · apply Nat.succ_le_succ
              refine Outline.membersDepth_le_iff.mpr ?_
              intro m hMember
              rcases hParts m hMember with ⟨p, _, _, hSome⟩
              exact (ih m hMember hSome).2

/- What can be read has a value where it fits in. -/
theorem exists_ofOutline?
    (hReadable : o.IsReadable)
    (hDepth : o.depth ≤ room) :
    ∃ v, ofOutline? room o = some v := by
  induction hReadable generalizing room with
  | @scalar s hText =>
      cases s with
      | string text =>
          cases text with
          | none => exact absurd rfl hText
          | some text => exact ⟨_, rfl⟩
      | _ => exact ⟨_, rfl⟩
  | @array items _ ih =>
      cases room with
      | zero => cases hDepth
      | succ room =>
          have hParts :=
            Outline.itemsDepth_le_iff.mp
              (Nat.le_of_succ_le_succ hDepth)
          rcases exists_forall₂
              (fun o hMember => ih o hMember (hParts o hMember))
            with ⟨values, hValues⟩
          refine ⟨.array values, ?_⟩
          rw [ofOutline?, itemsOf?_eq_some_iff.mpr hValues]
          rfl
  | @object members hNames hFirst _ ih =>
      cases room with
      | zero => cases hDepth
      | succ room =>
          have hParts :=
            Outline.membersDepth_le_iff.mp
              (Nat.le_of_succ_le_succ hDepth)
          have hMember :
              ∀ m ∈ members, ∃ p, IsMember room m p := by
            intro m hIn
            rcases ih m hIn (hParts m hIn) with ⟨w, hSome⟩
            rcases Option.ne_none_iff_exists'.mp
              (hNames m hIn) with ⟨name, hName⟩
            exact ⟨(name, w), hName, hSome⟩
          rcases exists_forall₂ hMember with ⟨pairs, hPairs⟩
          exact
            ⟨_, (ofOutline?_object hFirst).mpr
              ⟨pairs, hPairs, rfl⟩⟩
  | marked hNumber =>
      cases room with
      | zero => cases hDepth
      | succ room =>
          exact
            ⟨_, (ofOutline?_marked rfl).mpr
              ⟨_, _, hNumber, rfl, rfl⟩⟩

/- The value is a container when the outline is one of one. -/
theorem isContainer_of_ofOutline?
    (hValue : ofOutline? room o = some v) :
    v.isContainer = o.isContainer := by
  cases o with
  | scalar s =>
      cases s with
      | string text =>
          rcases Option.map_eq_some_iff.mp hValue with
            ⟨text, _, rfl⟩
          rfl
      | _ =>
          obtain rfl := Option.some.inj hValue
          rfl
  | array items =>
      cases room with
      | zero => cases hValue
      | succ room =>
          rcases Option.map_eq_some_iff.mp hValue with
            ⟨values, _, rfl⟩
          rfl
  | object members =>
      cases room with
      | zero => cases members <;> cases hValue
      | succ room =>
          rw [Outline.isContainer]
          by_cases hFirst :
              (members.map Prod.fst).head? =
                some (some numberKey)
          · rcases (ofOutline?_marked hFirst).mp hValue with
              ⟨text, n, _, rfl, _⟩
            rw [hFirst]
            rfl
          · rcases (ofOutline?_object hFirst).mp hValue with
              ⟨pairs, _, rfl⟩
            exact (decide_eq_true hFirst).symm

------------------------------------------------------------
-- Normal Values
------------------------------------------------------------

/- The members that are set make a normal object. -/
theorem normal_insertAll
    {members : List (Option String × Outline)}
    (hFirst :
      (members.map Prod.fst).head? ≠ some (some numberKey))
    (hPairs : List.Forall₂ (IsMember room) members pairs)
    (hParts :
      ∀ p ∈ pairs, p.2.Normal ∧ p.2.depth ≤ room) :
    (object (insertAll [] pairs)).Normal ∧
      (object (insertAll [] pairs)).depth ≤ room + 1 := by
  have hKept :
      ∀ p ∈ insertAll [] pairs,
        p.2.Normal ∧ p.2.depth ≤ room := by
    intro p hMember
    rcases mem_of_mem_insertAll hMember with hNone | hPair
    · cases hNone
    · exact hParts p hPair
  have hNames : ((insertAll [] pairs).map Prod.fst).Nodup :=
    nodup_insertAll (by simp)
  -- the first name that was read is still in front
  have hHead :
      ((insertAll [] pairs).map Prod.fst).head? ≠
        some numberKey := by
    cases hPairs with
    | nil => simp [insertAll]
    | @cons m p _ others hMember _ =>
        have hFront :
            insertAll [] (p :: others) = insertAll [p] others :=
          rfl
        rw [hFront, head?_insertAll]
        intro hSame
        apply hFirst
        rw [List.map_cons, List.head?_cons, hMember.1, hSame]
  exact
    ⟨.object hNames hHead fun p hMember => (hKept p hMember).1,
      depth_object_le_iff.mpr fun p hMember =>
        (hKept p hMember).2⟩

/- The values of proper outlines are normal and fit in. -/
theorem normal_of_ofOutline?
    (hValue : ofOutline? room o = some v)
    (hProper :
      ∀ n, .scalar (.number n) ∈ o.tokens → n.IsProper) :
    v.Normal ∧ v.depth ≤ room := by
  induction o using Outline.induct generalizing room v with
  | scalar s =>
      cases s with
      | null =>
          obtain rfl := Option.some.inj hValue
          exact ⟨.null, Nat.zero_le room⟩
      | bool b =>
          obtain rfl := Option.some.inj hValue
          exact ⟨.bool b, Nat.zero_le room⟩
      | number n =>
          obtain rfl := Option.some.inj hValue
          have hDigits := hProper n List.mem_cons_self
          exact ⟨.number hDigits, Nat.zero_le room⟩
      | string text =>
          rcases Option.map_eq_some_iff.mp hValue with
            ⟨s, _, rfl⟩
          exact ⟨.string s, Nat.zero_le room⟩
  | array items ih =>
      cases room with
      | zero => cases hValue
      | succ room =>
          rcases Option.map_eq_some_iff.mp hValue with
            ⟨values, hItems, rfl⟩
          have hParts :
              ∀ w ∈ values, w.Normal ∧ w.depth ≤ room := by
            intro w hMember
            rcases (exists_of_forall₂
              (itemsOf?_eq_some_iff.mp hItems)).2 w hMember with
              ⟨o, hIn, hSome⟩
            refine ih o hIn hSome fun n hNumber => ?_
            exact
              hProper n
                (Outline.scalar_mem_tokens_array.mpr
                  ⟨o, hIn, hNumber⟩)
          exact
            ⟨.array fun w hMember => (hParts w hMember).1,
              depth_array_le_iff.mpr fun w hMember =>
                (hParts w hMember).2⟩
  | object members ih =>
      cases room with
      | zero => cases members <;> cases hValue
      | succ room =>
          by_cases hFirst :
              (members.map Prod.fst).head? =
                some (some numberKey)
          · rcases (ofOutline?_marked hFirst).mp hValue with
              ⟨text, n, hNumber, rfl, rfl⟩
            exact ⟨.number hNumber.proper, Nat.zero_le _⟩
          · rcases (ofOutline?_object hFirst).mp hValue with
              ⟨pairs, hPairs, rfl⟩
            refine normal_insertAll hFirst hPairs fun p hPair => ?_
            rcases (exists_of_forall₂ hPairs).2 p hPair with
              ⟨m, hIn, _, hSome⟩
            refine ih m hIn hSome fun n hNumber => ?_
            exact
              hProper n
                (Outline.scalar_mem_tokens_object.mpr
                  ⟨m, hIn, Or.inr hNumber⟩)

/- The outline of a normal value has just that value. -/
theorem Normal.ofOutline?_outline
    (hNormal : v.Normal)
    (hDepth : v.depth ≤ room) :
    ofOutline? room v.outline = some v := by
  induction hNormal generalizing room with
  | null => rfl
  | bool b => rfl
  | number hProper => rfl
  | string s => rfl
  | @array items _ ih =>
      cases room with
      | zero => cases hDepth
      | succ room =>
          have hParts := depth_array_le_iff.mp hDepth
          have hItems :
              itemsOf? room (outlines items) = some items := by
            rw [outlines_eq_map]
            refine itemsOf?_eq_some_iff.mpr ?_
            refine List.forall₂_map_left_iff.mpr ?_
            refine List.forall₂_same.mpr ?_
            exact fun w hMember =>
              ih w hMember (hParts w hMember)
          rw [outline, ofOutline?, hItems]
          rfl
  | @object members hNames hFirst _ ih =>
      cases room with
      | zero => cases hDepth
      | succ room =>
          have hParts := depth_object_le_iff.mp hDepth
          have hPairs :
              List.Forall₂ (IsMember room)
                (memberOutlines members) members := by
            rw [memberOutlines_eq_map]
            refine List.forall₂_map_left_iff.mpr ?_
            refine List.forall₂_same.mpr ?_
            exact fun m hMember =>
              ⟨rfl, ih m hMember (hParts m hMember)⟩
          have hHead :
              ((memberOutlines members).map Prod.fst).head? ≠
                some (some numberKey) := by
            rw [memberOutlines_eq_map]
            cases members with
            | nil => simp
            | cons m rest => simpa using hFirst
          have hKept : members = insertAll [] members := by
            rw [insertAll_of_nodup (by simpa using hNames)]
            rfl
          refine (ofOutline?_object hHead).mpr ?_
          exact ⟨members, hPairs, congrArg Json.object hKept⟩

end Json

end EventFeed
