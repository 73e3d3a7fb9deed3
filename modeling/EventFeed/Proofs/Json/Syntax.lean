import EventFeed.Json.Outline
import EventFeed.Proofs.Json.Spelling

/-
  This file says which texts spell an outline.

  An outline is a row of tokens: its scalars and names among
  brackets, commas and colons.  A text spells the outline when
  it spells that row.  Reading finds just the outlines that a
  text spells: each step of the grammar keeps the row of the
  tokens read so far, and the row of an outline leads to it.
  Nothing but blanks may follow an outline.

  Key definitions include:
    * `Json.Outline.depth`
    * `Json.Outline.tokens`
    * `Json.Outline.Spells`
    * `Json.Grammar.tokens`

  Key results include:
    * `Json.Outline.induct`
    * `Json.Grammar.tokens_step`
    * `Json.Outline.foldlM_tokens`
    * `Json.Outline.parse?_eq_some_iff`
    * `Json.Outline.parse?_append`
-/

------------------------------------------------------------
-- Outlines by Their Parts
------------------------------------------------------------

namespace EventFeed

namespace Json

namespace Outline

/- What holds of the parts of an outline spreads to it. -/
theorem induct
    {P : Outline → Prop}
    (scalar : ∀ s, P (.scalar s))
    (array : ∀ items, (∀ v ∈ items, P v) → P (.array items))
    (object :
      ∀ members, (∀ m ∈ members, P m.2) → P (.object members))
    (o : Outline) :
    P o :=
  @Outline.rec P (fun items => ∀ v ∈ items, P v)
    (fun members => ∀ m ∈ members, P m.2) (fun m => P m.2)
    scalar array object
    (List.forall_mem_nil _)
    (fun _ _ hFirst hRest =>
      List.forall_mem_cons.mpr ⟨hFirst, hRest⟩)
    (List.forall_mem_nil _)
    (fun _ _ hFirst hRest =>
      List.forall_mem_cons.mpr ⟨hFirst, hRest⟩)
    (fun _ _ hValue => hValue)
    o

mutual

/- How deep the containers of an outline nest. -/
def depth : Outline → Nat
  | .scalar _ => 0
  | .array items => itemsDepth items + 1
  | .object members => membersDepth members + 1

def itemsDepth : List Outline → Nat
  | [] => 0
  | v :: rest => max v.depth (itemsDepth rest)

def membersDepth : List (Option String × Outline) → Nat
  | [] => 0
  | (_, v) :: rest => max v.depth (membersDepth rest)

end

/- The items nest no deeper than the deepest. -/
theorem itemsDepth_le_iff
    {items : List Outline}
    {room : Nat} :
    itemsDepth items ≤ room ↔ ∀ v ∈ items, v.depth ≤ room := by
  induction items with
  | nil => simp [itemsDepth]
  | cons v rest ih =>
      rw [itemsDepth, Nat.max_le, ih, List.forall_mem_cons]

theorem membersDepth_le_iff
    {members : List (Option String × Outline)}
    {room : Nat} :
    membersDepth members ≤ room ↔
      ∀ m ∈ members, m.2.depth ≤ room := by
  induction members with
  | nil => simp [membersDepth]
  | cons m rest ih =>
      rw [membersDepth, Nat.max_le, ih, List.forall_mem_cons]

------------------------------------------------------------
-- Tokens of Outlines
------------------------------------------------------------

mutual

/- The tokens of an outline. -/
def tokens : Outline → List Token
  | .scalar s => [.scalar s]
  | .array [] => [.openArray, .closeArray]
  | .array (v :: rest) =>
      .openArray :: (v.tokens ++ itemsTokens rest)
  | .object [] => [.openObject, .closeObject]
  | .object ((n, v) :: rest) =>
      .openObject :: .scalar (.string n) :: .colon ::
        (v.tokens ++ membersTokens rest)

/- The items after the first, with the closing bracket. -/
def itemsTokens : List Outline → List Token
  | [] => [.closeArray]
  | v :: rest => .comma :: (v.tokens ++ itemsTokens rest)

/- The members after the first, with the closing brace. -/
def membersTokens :
    List (Option String × Outline) → List Token
  | [] => [.closeObject]
  | (n, v) :: rest =>
      .comma :: .scalar (.string n) :: .colon ::
        (v.tokens ++ membersTokens rest)

end

/- How an outline may be spelled. -/
def Spells (o : Outline) (text : String) : Prop :=
  Token.SpellAll o.tokens text.toList

/- Whether the outline is a value without parts. -/
def isScalar : Outline → Bool
  | .scalar _ => true
  | _ => false

/- An item with the comma after it. -/
def itemTokens (v : Outline) : List Token :=
  v.tokens ++ [.comma]

/- A name with its colon. -/
def nameTokens (n : Option String) : List Token :=
  [.scalar (.string n), .colon]

/- A member with the comma after it. -/
def memberTokens (m : Option String × Outline) : List Token :=
  nameTokens m.1 ++ (m.2.tokens ++ [.comma])

/- The commas may as well be put after the items. -/
theorem tokens_itemsTokens
    (items : List Outline)
    (last : Outline) :
    (array (items ++ [last])).tokens =
      .openArray ::
        (items.flatMap itemTokens ++
          (last.tokens ++ [.closeArray])) := by
  cases items with
  | nil => simp [tokens, itemsTokens]
  | cons v rest =>
      rw [List.cons_append, tokens]
      induction rest generalizing v with
      | nil => simp [itemsTokens, itemTokens]
      | cons w rest ih =>
          have hRest := List.tail_eq_of_cons_eq (ih w)
          rw [List.cons_append, itemsTokens, hRest]
          simp [itemTokens]

theorem tokens_membersTokens
    (members : List (Option String × Outline))
    (n : Option String)
    (last : Outline) :
    (object (members ++ [(n, last)])).tokens =
      .openObject ::
        (members.flatMap memberTokens ++
          (nameTokens n ++ (last.tokens ++ [.closeObject]))) := by
  cases members with
  | nil => simp [tokens, membersTokens, nameTokens]
  | cons m rest =>
      rw [List.cons_append, tokens]
      induction rest generalizing m with
      | nil =>
          simp [membersTokens, memberTokens, nameTokens]
      | cons w rest ih =>
          have hRest := List.tail_eq_of_cons_eq (ih w)
          rw [List.cons_append, membersTokens, hRest]
          simp [memberTokens, nameTokens]

/- The scalars of an array are those of its items. -/
theorem scalar_mem_tokens_array
    {s : Scalar}
    {items : List Outline} :
    .scalar s ∈ (array items).tokens ↔
      ∃ v ∈ items, .scalar s ∈ v.tokens := by
  rcases List.eq_nil_or_concat items with
    rfl | ⟨front, last, rfl⟩
  · simp [tokens]
  · rw [List.concat_eq_append, tokens_itemsTokens]
    simp [itemTokens, or_and_right, exists_or]

/- Those of an object are its names and those of its values. -/
theorem scalar_mem_tokens_object
    {s : Scalar}
    {members : List (Option String × Outline)} :
    .scalar s ∈ (object members).tokens ↔
      ∃ m ∈ members,
        s = .string m.1 ∨ .scalar s ∈ m.2.tokens := by
  rcases List.eq_nil_or_concat members with
    rfl | ⟨front, ⟨n, last⟩, rfl⟩
  · simp [tokens]
  · rw [List.concat_eq_append, tokens_membersTokens]
    simp [memberTokens, nameTokens, or_and_right, exists_or]

end Outline

------------------------------------------------------------
-- Tokens of the Grammar
------------------------------------------------------------

/- The tokens of an open container. -/
def Level.tokens : Level → List Token
  | .array items =>
      .openArray :: items.reverse.flatMap Outline.itemTokens
  | .object members n =>
      .openObject ::
        (members.reverse.flatMap Outline.memberTokens ++
          Outline.nameTokens n)

namespace Grammar

/- The tokens of all open containers, the outermost first. -/
def stackTokens (stack : List Level) : List Token :=
  stack.reverse.flatMap Level.tokens

@[simp] theorem stackTokens_cons
    (level : Level)
    (stack : List Level) :
    stackTokens (level :: stack) =
      stackTokens stack ++ level.tokens := by
  simp [stackTokens]

/- The tokens that have been read. -/
def tokens : Grammar → List Token
  | value stack => stackTokens stack
  | arrayStart stack => stackTokens stack ++ [.openArray]
  | objectStart stack => stackTokens stack ++ [.openObject]
  | name stack members =>
      stackTokens stack ++
        .openObject ::
          members.reverse.flatMap Outline.memberTokens
  | colon stack members n =>
      stackTokens stack ++
        .openObject ::
          (members.reverse.flatMap Outline.memberTokens ++
            [.scalar (.string n)])
  | done stack v => stackTokens stack ++ v.tokens

theorem tokens_begin
    {stack : List Level}
    {t : Token}
    {next : Grammar}
    (hBegin : begin stack t = some next) :
    next.tokens = stackTokens stack ++ [t] := by
  unfold begin at hBegin
  split at hBegin
  · obtain rfl := Option.some.inj hBegin
    simp [tokens, Outline.tokens]
  · obtain rfl := Option.some.inj hBegin
    rfl
  · obtain rfl := Option.some.inj hBegin
    rfl
  · contradiction

/- A step adds its token to those that have been read. -/
theorem tokens_step
    {state next : Grammar}
    {t : Token}
    (hStep : state.step t = some next) :
    next.tokens = state.tokens ++ [t] := by
  unfold step at hStep
  split at hStep
  case h_1 stack => exact tokens_begin hStep
  case h_2 stack =>
    split at hStep
    · obtain rfl := Option.some.inj hStep
      simp [tokens, Outline.tokens]
    · rw [tokens_begin hStep]
      simp [tokens, Level.tokens]
  case h_3 stack =>
    split at hStep
    · obtain rfl := Option.some.inj hStep
      simp [tokens, Outline.tokens]
    · obtain rfl := Option.some.inj hStep
      simp [tokens]
    · contradiction
  case h_4 stack members =>
    split at hStep
    · obtain rfl := Option.some.inj hStep
      simp [tokens]
    · contradiction
  case h_5 stack members n =>
    split at hStep
    · obtain rfl := Option.some.inj hStep
      simp [tokens, Level.tokens, Outline.nameTokens]
    · contradiction
  case h_6 items stack v =>
    split at hStep
    · obtain rfl := Option.some.inj hStep
      simp [tokens, Level.tokens, Outline.itemTokens]
    · obtain rfl := Option.some.inj hStep
      rw [tokens, List.reverse_cons, Outline.tokens_itemsTokens]
      simp [tokens, Level.tokens]
    · contradiction
  case h_7 members n stack v =>
    split at hStep
    · obtain rfl := Option.some.inj hStep
      simp [tokens, Level.tokens, Outline.memberTokens]
    · obtain rfl := Option.some.inj hStep
      rw [tokens, List.reverse_cons,
        Outline.tokens_membersTokens]
      simp [tokens, Level.tokens]
    · contradiction
  case h_8 => contradiction

/- And so does a row of tokens. -/
theorem tokens_foldlM
    {state last : Grammar}
    {row : List Token}
    (hFold : row.foldlM step state = some last) :
    last.tokens = state.tokens ++ row := by
  induction row generalizing state with
  | nil =>
      obtain rfl := Option.some.inj hFold
      rw [List.append_nil]
  | cons t row ih =>
      rw [List.foldlM_cons] at hFold
      rcases Option.bind_eq_some_iff.mp hFold with
        ⟨next, hStep, hRest⟩
      rw [ih hRest, tokens_step hStep, List.append_assoc]
      rfl

/- A scalar is followed by a mark. -/
theorem step_scalar_scalar
    {state next : Grammar}
    {s : Scalar}
    (hStep : state.step (.scalar s) = some next)
    (s' : Scalar) :
    next.step (.scalar s') = none := by
  have hDone :
      ∀ stack v, step (done stack v) (.scalar s') = none := by
    intro stack v
    cases stack with
    | nil => rfl
    | cons level stack => cases level <;> rfl
  cases state with
  | value stack =>
      obtain rfl := Option.some.inj hStep
      exact hDone _ _
  | arrayStart stack =>
      obtain rfl := Option.some.inj hStep
      exact hDone _ _
  | objectStart stack =>
      cases s with
      | string n =>
          obtain rfl := Option.some.inj hStep
          rfl
      | _ => cases hStep
  | name stack members =>
      cases s with
      | string n =>
          obtain rfl := Option.some.inj hStep
          rfl
      | _ => cases hStep
  | colon stack members n => cases hStep
  | done stack v =>
      cases stack with
      | nil => cases hStep
      | cons level stack => cases level <;> cases hStep

/- No scalar follows another in a row that is accepted. -/
theorem isSpread_of_foldlM
    {state last : Grammar}
    {row : List Token}
    (hFold : row.foldlM step state = some last) :
    Token.IsSpread row := by
  induction row generalizing state with
  | nil => exact .nil
  | cons t row ih =>
      rw [List.foldlM_cons] at hFold
      rcases Option.bind_eq_some_iff.mp hFold with
        ⟨next, hStep, hRest⟩
      refine List.isChain_cons.mpr ⟨?_, ih hRest⟩
      intro u hHead hScalar
      cases t with
      | scalar s =>
          cases row with
          | nil => cases hHead
          | cons u' row =>
              obtain rfl := Option.some.inj hHead
              cases u' with
              | scalar s' =>
                  rw [List.foldlM_cons,
                    step_scalar_scalar hStep s'] at hRest
                  cases hRest
              | _ => rfl
      | _ => cases hScalar

end Grammar

------------------------------------------------------------
-- Outlines of Tokens
------------------------------------------------------------

namespace Outline

open Grammar

/- An item cannot be taken for the end of its array. -/
theorem step_arrayStart_tokens
    (o : Outline)
    (stack : List Level) :
    o.tokens.foldlM step (arrayStart stack) =
      o.tokens.foldlM step (value (.array [] :: stack)) := by
  cases o with
  | scalar s => rfl
  | array items => cases items <;> rfl
  | object members => cases members <;> rfl

mutual

/- The tokens of an outline lead to it. -/
theorem foldlM_tokens :
    ∀ (o : Outline) (stack : List Level),
      o.tokens.foldlM step (value stack) = some (done stack o)
  | .scalar s, stack => rfl
  | .array [], stack => rfl
  | .array (v :: rest), stack => by
      have hOpen :
          step (value stack) .openArray =
            some (arrayStart stack) :=
        rfl
      have hFirst := foldlM_tokens v (.array [] :: stack)
      rw [← step_arrayStart_tokens] at hFirst
      rw [tokens, foldlM_cons_of_some hOpen,
        foldlM_append_of_some hFirst]
      exact foldlM_itemsTokens rest [] v stack
  | .object [], stack => rfl
  | .object ((n, v) :: rest), stack => by
      have hOpen :
          step (value stack) .openObject =
            some (objectStart stack) :=
        rfl
      have hName :
          step (objectStart stack) (.scalar (.string n)) =
            some (colon stack [] n) :=
        rfl
      have hColon :
          step (colon stack [] n) .colon =
            some (value (.object [] n :: stack)) :=
        rfl
      rw [tokens, foldlM_cons_of_some hOpen,
        foldlM_cons_of_some hName, foldlM_cons_of_some hColon,
        foldlM_append_of_some (foldlM_tokens v _)]
      exact foldlM_membersTokens rest [] n v stack

theorem foldlM_itemsTokens :
    ∀ (rest items : List Outline) (v : Outline)
      (stack : List Level),
      (itemsTokens rest).foldlM step
          (done (.array items :: stack) v) =
        some (done stack (.array ((v :: items).reverse ++ rest)))
  | [], items, v, stack => by
      rw [List.append_nil]
      rfl
  | w :: rest, items, v, stack => by
      have hComma :
          step (done (.array items :: stack) v) .comma =
            some (value (.array (v :: items) :: stack)) :=
        rfl
      rw [itemsTokens, foldlM_cons_of_some hComma,
        foldlM_append_of_some (foldlM_tokens w _),
        foldlM_itemsTokens rest (v :: items) w stack,
        List.reverse_cons (a := w), List.append_assoc]
      rfl

theorem foldlM_membersTokens :
    ∀ (rest members : List (Option String × Outline))
      (n : Option String) (v : Outline) (stack : List Level),
      (membersTokens rest).foldlM step
          (done (.object members n :: stack) v) =
        some
          (done stack
            (.object (((n, v) :: members).reverse ++ rest)))
  | [], members, n, v, stack => by
      rw [List.append_nil]
      rfl
  | (m, w) :: rest, members, n, v, stack => by
      have hComma :
          step (done (.object members n :: stack) v) .comma =
            some (name stack ((n, v) :: members)) :=
        rfl
      have hName :
          step (name stack ((n, v) :: members))
              (.scalar (.string m)) =
            some (colon stack ((n, v) :: members) m) :=
        rfl
      have hColon :
          step (colon stack ((n, v) :: members) m) .colon =
            some (value (.object ((n, v) :: members) m :: stack)) :=
        rfl
      rw [membersTokens, foldlM_cons_of_some hComma,
        foldlM_cons_of_some hName, foldlM_cons_of_some hColon,
        foldlM_append_of_some (foldlM_tokens w _),
        foldlM_membersTokens rest ((n, v) :: members) m w stack,
        List.reverse_cons (a := (m, w)), List.append_assoc]
      rfl

end

/- Only the tokens of an outline lead to it. -/
theorem ofTokens?_eq_some_iff
    {row : List Token}
    {o : Outline} :
    ofTokens? row = some o ↔ row = o.tokens := by
  constructor
  · intro hTokens
    rcases Option.bind_eq_some_iff.mp hTokens with
      ⟨last, hFold, hOutline⟩
    have hKept := tokens_foldlM hFold
    unfold outline? at hOutline
    split at hOutline
    · obtain rfl := Option.some.inj hOutline
      exact hKept.symm
    · contradiction
  · rintro rfl
    rw [ofTokens?, foldlM_tokens]
    rfl

theorem isSpread_tokens (o : Outline) :
    Token.IsSpread o.tokens :=
  isSpread_of_foldlM (foldlM_tokens o [])

------------------------------------------------------------
-- Outlines of Texts
------------------------------------------------------------

/- Reading finds just the outline that a text spells. -/
theorem parse?_eq_some_iff
    {text : String}
    {o : Outline} :
    parse? text = some o ↔ o.Spells text := by
  constructor
  · intro hParse
    rcases Option.bind_eq_some_iff.mp hParse with
      ⟨row, hScan, hTokens⟩
    obtain rfl := ofTokens?_eq_some_iff.mp hTokens
    exact Token.spellAll_of_scan? hScan
  · intro hSpells
    rw [parse?,
      Token.scan?_of_spellAll hSpells o.isSpread_tokens]
    exact ofTokens?_eq_some_iff.mpr rfl

/- A container ends with a mark. -/
theorem getLast?_tokens
    {o : Outline}
    (hParts : o.isScalar = false) :
    ∃ t, o.tokens.getLast? = some t ∧ t.isScalar = false := by
  cases o with
  | scalar s => cases hParts
  | array items =>
      refine ⟨.closeArray, ?_, rfl⟩
      rcases List.eq_nil_or_concat items with
        rfl | ⟨front, last, rfl⟩
      · rfl
      · rw [List.concat_eq_append, tokens_itemsTokens]
        simp [List.getLast?_cons]
  | object members =>
      refine ⟨.closeObject, ?_, rfl⟩
      rcases List.eq_nil_or_concat members with
        rfl | ⟨front, ⟨n, last⟩, rfl⟩
      · rfl
      · rw [List.concat_eq_append, tokens_membersTokens]
        simp [List.getLast?_cons]

/- Only blanks may follow a container. -/
theorem parse?_append
    {text more : String}
    {o : Outline}
    (hSpells : o.Spells text)
    (hParts : o.isScalar = false)
    (hMore : ¬IsBlanks more.toList) :
    parse? (text ++ more) = none := by
  rcases getLast?_tokens hParts with ⟨t, hLast, hMark⟩
  have hScan :=
    Token.scan?_append hSpells o.isSpread_tokens hLast hMark
      more.toList
  rw [parse?, String.toList_append, hScan]
  cases hTokens : Token.scan? more.toList with
  | none => rfl
  | some row =>
      cases row with
      | nil =>
          have hAll := Token.spellAll_of_scan? hTokens
          exact absurd hAll.isBlanks hMore
      | cons t row =>
          have hDone :
              step (done [] o) t = none :=
            rfl
          rw [Option.map_some, Option.bind_some, ofTokens?,
            foldlM_append_of_some (foldlM_tokens o []),
            List.foldlM_cons, hDone]
          rfl

/- The first token tells a scalar from a container. -/
theorem head_tokens (o : Outline) :
    ∃ t rest,
      o.tokens = t :: rest ∧ t.isScalar = o.isScalar := by
  cases o with
  | scalar s => exact ⟨_, _, rfl, rfl⟩
  | array items => cases items <;> exact ⟨_, _, rfl, rfl⟩
  | object members => cases members <;> exact ⟨_, _, rfl, rfl⟩

/- What follows a scalar makes no container of it. -/
theorem isScalar_of_append
    {text more : String}
    {o o' : Outline}
    (hSpells : o.Spells text)
    (hLonger : o'.Spells (text ++ more)) :
    o'.isScalar = o.isScalar := by
  rcases o.head_tokens with ⟨t, rest, hTokens, hKind⟩
  rcases o'.head_tokens with ⟨t', rest', hTokens', hKind'⟩
  rw [Spells, hTokens] at hSpells
  rw [Spells, hTokens', String.toList_append] at hLonger
  rcases hSpells.head with ⟨c, cs, hDrop, hMark⟩
  rcases hLonger.head with ⟨c', cs', hDrop', hMark'⟩
  rw [List.dropWhile_append, hDrop, List.isEmpty_cons,
    if_neg Bool.false_ne_true] at hDrop'
  obtain rfl := (List.cons.inj hDrop').1
  rw [← hKind, ← hKind', ← hMark, ← hMark']

end Outline

end Json

end EventFeed
