import EventFeed.Frame

/-
  This file says what a text means as a whole, and proves
  that a reader of frames finds just that in it.

  The meaning is given by cutting twice: a text at its line
  feeds, and its lines at the empty ones.  What lies behind
  the last cut has not ended.  A block is an event if one of
  its lines gives data, and each field of the event is
  looked up in the block.

  The reader goes line by line.  What it keeps of a frame is
  what the lines since the last empty one say, and this is
  the invariant that carries the proof.

  Key definitions include:
    * `Line.complete`
    * `Line.remainder`
    * `Line.valueOf?`
    * `Block.ended`
    * `Block.unended`
    * `Block.event?`
    * `Frame.ofBlock`

  Key results include:
    * `Line.split_eq`
    * `Field.value?_eq_valueOf?`
    * `Frame.addLines_ofBlock`
    * `FrameReader.feedText_new`
-/

------------------------------------------------------------
-- Meaning of Lines
------------------------------------------------------------

namespace EventFeed

namespace Line

/- A line without the one carriage return it may end with. -/
def withoutReturn (line : Line) : Line :=
  if line.getLast? = some '\r' then line.dropLast else line

/- The lines of a text that a line feed has ended. -/
def complete (text : List Char) : List Line :=
  (text.splitOn '\n').dropLast.map withoutReturn

/- What comes after the last line feed of a text. -/
def remainder (text : List Char) : List Char :=
  (text.splitOn '\n').getLastD []

/-
  The value that a line gives to a field: the line starts
  with the name and a colon, and the value is what comes
  after the first colon, without the blanks in front.
-/
def valueOf? (name : String) (line : Line) : Option String :=
  if name.toList ++ [':'] <+: line then
    some
      (String.ofList
        (((line.dropWhile (· ≠ ':')).drop 1).dropWhile
          Text.isBlank))
  else
    none

end Line

------------------------------------------------------------
-- Meaning of Blocks
------------------------------------------------------------

/- Lines that stand together, with no empty one among them. -/
abbrev Block := List Line

namespace Block

/- The blocks that an empty line has ended. -/
def ended (lines : List Line) : List Block :=
  (lines.splitOn []).dropLast

/- What comes after the last empty line. -/
def unended (lines : List Line) : Block :=
  (lines.splitOn []).getLastD []

/- All values that a block gives to a field, in order. -/
def values (name : String) (block : Block) : List String :=
  block.filterMap (Line.valueOf? name)

/-
  The event of a block.  It takes a line of data to be one;
  for its type and its id the last line that gives one
  counts.
-/
def event? (block : Block) : Option Event :=
  if block.values "data" = [] then
    none
  else
    some
      { type :=
          (block.values "event").getLast?.getD
            Event.messageType
        data := "\n".intercalate (block.values "data")
        id := (block.values "id").getLast? }

end Block

end EventFeed

------------------------------------------------------------
-- Cutting Lists
------------------------------------------------------------

namespace EventFeed

namespace Line

/- Cutting reads off all pieces but the last as lines. -/
theorem split_eq (text : List Char) :
    split text =
      ((text.splitOn '\n').dropLast, remainder text) := by
  induction text with
  | nil => rfl
  | cons c text ih =>
      unfold remainder at ih ⊢
      rw [List.splitOn_cons_eq_if_modifyHead]
      rcases hPieces : text.splitOn '\n' with _ | ⟨piece, pieces⟩
      · exact absurd hPieces (List.splitOn_ne_nil _ _)
      · rw [hPieces] at ih
        by_cases hFeed : c = '\n'
        · simp [split, ih, hFeed]
        · cases pieces with
          | nil => simp [split, ih, hFeed]
          | cons next pieces => simp [split, ih, hFeed]

theorem dropReturn_eq (line : Line) :
    dropReturn line = line.withoutReturn := by
  unfold withoutReturn
  fun_induction dropReturn line with
  | case1 => rfl
  | case2 => rfl
  | case3 c rest hOther ih =>
      cases rest with
      | nil =>
          have hReturn : c ≠ '\r' := fun hEq =>
            hOther (by rw [hEq]) rfl
          simp [dropReturn, hReturn]
      | cons next rest =>
          rw [ih, List.getLast?_cons_cons,
            List.dropLast_cons_cons]
          split <;> rfl

end Line

end EventFeed

------------------------------------------------------------
-- Fields of Lines
------------------------------------------------------------

namespace EventFeed

namespace Field

/- A name is told from the rest of a line by its colon. -/
theorem value?_eq
    (name : List Char)
    (hColon : ':' ∉ name)
    (line : Line) :
    value? name line =
      if name ++ [':'] <+: line then
        some
          (String.ofList
            (((line.dropWhile (· ≠ ':')).drop 1).dropWhile
              Text.isBlank))
      else
        none := by
  induction name generalizing line with
  | nil =>
      cases line with
      | nil => simp [value?]
      | cons c line =>
          by_cases hFirst : c = ':'
          · subst hFirst
            simp [value?, Text.trimStart]
          · have hOther : ¬ [':'] <+: c :: line := by
              simpa [List.cons_prefix_cons] using Ne.symm hFirst
            simp [value?, hFirst, hOther]
  | cons n name ih =>
      rw [List.mem_cons, not_or] at hColon
      cases line with
      | nil => simp [value?]
      | cons c line =>
          by_cases hFirst : n = c
          · subst hFirst
            have hKeep :
                (n :: line).dropWhile (· ≠ ':') =
                  line.dropWhile (· ≠ ':') := by
              simp [Ne.symm hColon.1]
            rw [value?, if_pos rfl, ih hColon.2, hKeep]
            simp only [List.cons_append, List.cons_prefix_cons,
              true_and]
          · simp [value?, hFirst, List.cons_prefix_cons]

theorem value?_eq_valueOf?
    (name : String)
    (hColon : ':' ∉ name.toList)
    (line : Line) :
    value? name.toList line = line.valueOf? name :=
  value?_eq name.toList hColon line

end Field

namespace Line

/- A line that gives a value starts as the name does. -/
theorem head?_of_valueOf?
    {name value : String}
    {line : Line}
    (hValue : line.valueOf? name = some value) :
    line.head? = (name.toList ++ [':']).head? := by
  unfold valueOf? at hValue
  split at hValue
  · next hPrefix =>
      rcases hPrefix with ⟨rest, hLine⟩
      rw [← hLine]
      cases name.toList <;> rfl
  · contradiction

/- A line gives a value to one field at most. -/
theorem valueOf?_eq_none
    {name value : String}
    {line : Line}
    (hValue : line.valueOf? name = some value)
    (other : String)
    (hOther :
      (other.toList ++ [':']).head? ≠
        (name.toList ++ [':']).head?) :
    line.valueOf? other = none := by
  cases hBoth : line.valueOf? other with
  | none => rfl
  | some _ =>
      rw [← head?_of_valueOf? hValue,
        ← head?_of_valueOf? hBoth] at hOther
      contradiction

end Line

end EventFeed

------------------------------------------------------------
-- What a Frame Keeps
------------------------------------------------------------

namespace EventFeed

/- The next line of a block may add a value at the end. -/
theorem Block.values_concat
    (name : String)
    (block : Block)
    (line : Line) :
    Block.values name (block ++ [line]) =
      block.values name ++ (line.valueOf? name).toList := by
  unfold values
  rw [List.filterMap_append]
  cases hValue : line.valueOf? name <;> simp [hValue]

namespace Frame

/- The fields that the lines of a block leave. -/
def ofBlock (block : Block) : Frame where
  type? := (block.values "event").getLast?
  data := block.values "data"
  id? := (block.values "id").getLast?

theorem event?_ofBlock (block : Block) :
    (ofBlock block).event? = block.event? := by
  unfold event? ofBlock Block.event?
  cases block.values "data" <;> rfl

/- What a frame keeps follows the lines of its block. -/
theorem add_ofBlock (block : Block) (line : Line) :
    (ofBlock block).add (Field.ofLine line) =
      ofBlock (block ++ [line]) := by
  unfold Field.ofLine
  rw [Field.value?_eq_valueOf? "event" (by decide),
    Field.value?_eq_valueOf? "data" (by decide),
    Field.value?_eq_valueOf? "id" (by decide)]
  cases hType : line.valueOf? "event" with
  | some value =>
      have hData := Line.valueOf?_eq_none hType "data" (by decide)
      have hId := Line.valueOf?_eq_none hType "id" (by decide)
      simp [ofBlock, add, Block.values_concat, hType, hData, hId]
  | none =>
      cases hData : line.valueOf? "data" with
      | some value =>
          have hId := Line.valueOf?_eq_none hData "id" (by decide)
          simp [ofBlock, add, Block.values_concat, hType, hData,
            hId]
      | none =>
          cases hId : line.valueOf? "id" <;>
            simp [ofBlock, add, Block.values_concat, hType,
              hData, hId]

end Frame

end EventFeed

------------------------------------------------------------
-- Lines Taken In
------------------------------------------------------------

namespace EventFeed

namespace Block

/- Lines with no empty one among them end no block. -/
theorem cut_of_notMem
    {block : Block}
    (hBlock : [] ∉ block) :
    ended block = [] ∧ unended block = block := by
  unfold ended unended
  rw [List.splitOn_eq_singleton hBlock]
  exact ⟨rfl, rfl⟩

/- An empty line ends the block before it. -/
theorem cut_append_cons
    {block : Block}
    (hBlock : [] ∉ block)
    (lines : List Line) :
    ended (block ++ [] :: lines) = block :: ended lines ∧
      unended (block ++ [] :: lines) = unended lines := by
  unfold ended unended
  rw [List.splitOn_append_cons_self_of_not_mem hBlock]
  have hPieces : lines.splitOn [] ≠ [] :=
    List.splitOn_ne_nil _ _
  cases h : lines.splitOn [] with
  | nil => contradiction
  | cons piece pieces => simp

end Block

namespace Frame

/-
  A frame that keeps a block, and takes in lines, keeps the
  block that has not ended then and completes the events of
  those that have.
-/
theorem addLines_ofBlock
    {block : Block}
    (hBlock : [] ∉ block)
    (lines : List Line) :
    (ofBlock block).addLines lines =
      (ofBlock
          (Block.unended
            (block ++ lines.map Line.withoutReturn)),
        (Block.ended
            (block ++ lines.map Line.withoutReturn)).filterMap
          Block.event?) := by
  induction lines generalizing block with
  | nil =>
      rcases Block.cut_of_notMem hBlock with ⟨hEnded, hRest⟩
      simp [addLines, hEnded, hRest]
  | cons line lines ih =>
      rw [addLines, addLine, Line.dropReturn_eq, List.map_cons]
      cases hLine : line.withoutReturn with
      | nil =>
          rcases Block.cut_append_cons hBlock
              (lines.map Line.withoutReturn) with
            ⟨hEnded, hRest⟩
          have hEmpty : empty = ofBlock [] := rfl
          have hNone : [] ∉ ([] : Block) := List.not_mem_nil
          have hLater := ih hNone
          rw [List.nil_append] at hLater
          simp only [hEnded, hRest, hEmpty, hLater,
            event?_ofBlock, List.filterMap_cons]
          cases block.event? <;> rfl
      | cons c text =>
          have hMore : [] ∉ block ++ [c :: text] := by
            simpa using hBlock
          have hLater := ih hMore
          rw [List.append_assoc, List.singleton_append] at hLater
          simp [add_ofBlock, hLater]

end Frame

end EventFeed

------------------------------------------------------------
-- Texts Read
------------------------------------------------------------

namespace EventFeed

namespace FrameReader

/-
  A new reader that is given a text completes the events of
  its blocks, in their order.  It keeps the remainder of the
  text, and it is idle if there is none and the lines after
  the last empty one give no value to any field.
-/
theorem feedText_new (text : List Char) :
    (new.feedText text).2 =
        (Block.ended (Line.complete text)).filterMap
          Block.event? ∧
      (new.feedText text).1.buffered =
        String.ofList (Line.remainder text) ∧
      ((new.feedText text).1.isIdle = true ↔
        Line.remainder text = [] ∧
          ∀ name ∈ ["event", "data", "id"],
            (Block.unended (Line.complete text)).values name =
              []) := by
  have hEmpty : Frame.empty = Frame.ofBlock [] := rfl
  have hNone : [] ∉ ([] : Block) := List.not_mem_nil
  have hRead :
      new.feedText text =
        (⟨[], Line.remainder text,
            Frame.ofBlock (Block.unended (Line.complete text))⟩,
          (Block.ended (Line.complete text)).filterMap
            Block.event?) := by
    simp only [feedText, new, List.nil_append, Line.split_eq,
      hEmpty, Frame.addLines_ofBlock hNone, Line.complete]
  rw [hRead]
  refine ⟨rfl, rfl, ?_⟩
  simp only [isIdle, Frame.ofBlock, List.isEmpty_iff,
    List.isEmpty_nil, Option.isNone_iff_eq_none,
    List.getLast?_eq_none_iff, Bool.and_eq_true,
    List.forall_mem_cons, List.not_mem_nil]
  constructor
  · rintro ⟨⟨⟨⟨hRest, _⟩, hData⟩, hType⟩, hId⟩
    exact ⟨hRest, hType, hData, hId, nofun⟩
  · rintro ⟨hRest, hType, hData, hId, _⟩
    exact ⟨⟨⟨⟨hRest, trivial⟩, hData⟩, hType⟩, hId⟩

/-
  An empty type is a type, one of two carriage returns stays
  and is blank, and the type of a block that gives no data is
  gone with it.
-/
example :
    (new.feedText
        ("event:\ndata:\r\r\n\nevent:a\n\ndata: b\n\n" ++
          "id:7").toList).2 =
      [⟨"", "", none⟩, ⟨"message", "b", none⟩] := by
  decide +kernel

end FrameReader

end EventFeed
