import EventFeed.Proofs.Frame.Blocks
import EventFeed.Proofs.Frame.Chunks
import EventFeed.Proofs.Text.Utf8

/-
  This file gives the wire form of an event, and says which
  events a feed can carry.

  A value starts with no blank, for blanks after the colon
  are dropped, and holds no line feed, for that ends its
  line.  Events whose fields are values are framed: their
  wire form is read back as it was written.  And a reader
  finds no others, whatever its bytes are, because what it
  keeps of a frame are values at every point.

  Key definitions include:
    * `Text.IsValue`
    * `Event.wireLines`
    * `Event.wire`
    * `Event.IsFramed`
    * `Frame.Clean`

  Key results include:
    * `FrameReader.Reached.feedAll_eq_feedText`
    * `Frame.addLines_wireLines`
    * `Frame.Clean.addLines`
    * `FrameReader.feedAll_wire`
-/

------------------------------------------------------------
-- Wire Forms
------------------------------------------------------------

namespace EventFeed

/-
  Whether a text can be the value of a field: it holds no
  line feed and does not start with a blank.
-/
structure Text.IsValue (text : List Char) : Prop where
  line : '\n' ∉ text
  head : text.head?.any Text.isBlank = false

instance (text : List Char) : Decidable (Text.IsValue text) :=
  decidable_of_iff
    ('\n' ∉ text ∧ text.head?.any Text.isBlank = false)
    ⟨fun h => ⟨h.1, h.2⟩, fun h => ⟨h.line, h.head⟩⟩

namespace Event

/- The lines of the data of an event. -/
def dataLines (e : Event) : List Line :=
  e.data.toList.splitOn '\n'

/- The line that gives a value to a field. -/
def fieldLine (name : String) (value : Line) : Line :=
  name.toList ++ ':' :: value

/-
  The lines of an event: its type, its data line by line, its
  id if it has one, and the empty line that ends it.
-/
def wireLines (e : Event) : List Line :=
  fieldLine "event" e.type.toList ::
    (e.dataLines.map (fieldLine "data") ++
      (e.id.toList.map fun id => fieldLine "id" id.toList) ++
      [[]])

/- The text of an event; each of its lines ends with CRLF. -/
def wire (e : Event) : List Char :=
  e.wireLines.flatMap fun line => line ++ ['\r', '\n']

/- The type, the id and the lines of the data are values. -/
structure IsFramed (e : Event) : Prop where
  type : Text.IsValue e.type.toList
  data : ∀ line ∈ e.dataLines, Text.IsValue line
  id : ∀ id ∈ e.id, Text.IsValue id.toList

instance (e : Event) : Decidable e.IsFramed :=
  decidable_of_iff
    (Text.IsValue e.type.toList ∧
      (∀ line ∈ e.dataLines, Text.IsValue line) ∧
      ∀ id ∈ e.id, Text.IsValue id.toList)
    ⟨fun h => ⟨h.1, h.2.1, h.2.2⟩,
      fun h => ⟨h.type, h.data, h.id⟩⟩

end Event

end EventFeed

------------------------------------------------------------
-- Lines Written and Cut
------------------------------------------------------------

namespace EventFeed

/- Trimming leaves a value as it is. -/
theorem Text.IsValue.trimStart_eq
    {text : List Char}
    (hValue : Text.IsValue text) :
    Text.trimStart text = text := by
  cases text with
  | nil => rfl
  | cons c rest =>
      exact trimStart_of_not_isBlank rest hValue.head

namespace Line

/- A line feed ends the line before it. -/
theorem split_append_lineFeed
    {line : Line}
    (hFeed : '\n' ∉ line)
    (rest : List Char) :
    split (line ++ '\n' :: rest) =
      (line :: (split rest).1, (split rest).2) := by
  have hHead : split ('\n' :: rest) =
      ([] :: (split rest).1, (split rest).2) := by
    simp [split]
  induction line with
  | nil => exact hHead
  | cons c line ih =>
      rw [List.mem_cons, not_or] at hFeed
      have hFirst : c ≠ '\n' := Ne.symm hFeed.1
      rw [List.cons_append, split, if_neg hFirst, ih hFeed.2]

/- Lines that end with CRLF are cut after their returns. -/
theorem split_flatMap
    {lines : List Line}
    (hFeed : ∀ line ∈ lines, '\n' ∉ line) :
    split (lines.flatMap fun line => line ++ ['\r', '\n']) =
      (lines.map (· ++ ['\r']), []) := by
  induction lines with
  | nil => rfl
  | cons line lines ih =>
      rw [List.forall_mem_cons] at hFeed
      have hLine : '\n' ∉ line ++ ['\r'] := by
        simpa using hFeed.1
      have hText :
          (line :: lines).flatMap (· ++ ['\r', '\n']) =
            (line ++ ['\r']) ++
              '\n' :: lines.flatMap (· ++ ['\r', '\n']) := by
        simp
      rw [hText, split_append_lineFeed hLine, ih hFeed.2,
        List.map_cons]

/- The return that a line was given is dropped from it. -/
theorem dropReturn_concat (line : Line) :
    dropReturn (line ++ ['\r']) = line := by
  simp [dropReturn_eq, withoutReturn]

end Line

end EventFeed

------------------------------------------------------------
-- Fields Written and Read
------------------------------------------------------------

namespace EventFeed

namespace Field

open Event (fieldLine)

/- The line of a field gives its value back. -/
theorem value?_fieldLine
    (name : String)
    {value : Line}
    (hValue : Text.IsValue value) :
    value? name.toList (fieldLine name value) =
      some (String.ofList value) := by
  unfold fieldLine
  induction name.toList with
  | nil => rw [List.nil_append, value?, hValue.trimStart_eq]
  | cons n rest ih =>
      rw [List.cons_append, value?, if_pos rfl, ih]

theorem ofLine_event
    {value : Line}
    (hValue : Text.IsValue value) :
    ofLine (fieldLine "event" value) =
      .type (String.ofList value) := by
  unfold ofLine
  rw [value?_fieldLine "event" hValue]

theorem ofLine_data
    {value : Line}
    (hValue : Text.IsValue value) :
    ofLine (fieldLine "data" value) =
      .data (String.ofList value) := by
  have hEvent :
      value? "event".toList (fieldLine "data" value) = none :=
    rfl
  unfold ofLine
  rw [hEvent, value?_fieldLine "data" hValue]

theorem ofLine_id
    {value : Line}
    (hValue : Text.IsValue value) :
    ofLine (fieldLine "id" value) =
      .id (String.ofList value) := by
  have hEvent :
      value? "event".toList (fieldLine "id" value) = none :=
    rfl
  have hData :
      value? "data".toList (fieldLine "id" value) = none :=
    rfl
  unfold ofLine
  rw [hEvent, hData, value?_fieldLine "id" hValue]

end Field

namespace Frame

open Event (fieldLine)

/- The line of a field adds the field. -/
theorem addLine_fieldLine
    (frame : Frame)
    (name : String)
    (value : Line) :
    frame.addLine (fieldLine name value ++ ['\r']) =
      (frame.add (Field.ofLine (fieldLine name value)),
        none) := by
  rw [addLine, Line.dropReturn_concat]
  cases hLine : fieldLine name value with
  | nil => simp [fieldLine] at hLine
  | cons c rest => rfl

theorem addLines_data
    (frame : Frame)
    {values : List Line}
    (hValues : ∀ value ∈ values, Text.IsValue value) :
    frame.addLines
        ((values.map (fieldLine "data")).map (· ++ ['\r'])) =
      ({ frame with
          data := frame.data ++ values.map String.ofList },
        []) := by
  induction values generalizing frame with
  | nil => simp [addLines]
  | cons value values ih =>
      rw [List.forall_mem_cons] at hValues
      rw [List.map_cons, List.map_cons, addLines,
        addLine_fieldLine frame,
        Field.ofLine_data hValues.1, ih _ hValues.2]
      simp [add]

theorem addLines_id
    (type? : Option String)
    (data : List String)
    {id? : Option String}
    (hId : ∀ id ∈ id?, Text.IsValue id.toList) :
    addLines ⟨type?, data, none⟩
        ((id?.toList.map fun id =>
            fieldLine "id" id.toList).map (· ++ ['\r'])) =
      (⟨type?, data, id?⟩, []) := by
  cases id? with
  | none => rfl
  | some id =>
      have hLine :=
        addLine_fieldLine ⟨type?, data, none⟩ "id" id.toList
      rw [Field.ofLine_id (hId id rfl)] at hLine
      simp [addLines, hLine, add]

/- A line with nothing but its return ends the frame. -/
theorem addLines_return (frame : Frame) :
    frame.addLines [['\r']] = (empty, frame.event?.toList) := by
  simp [addLines, addLine, Line.dropReturn]

/- The data of an event are its lines, joined again. -/
theorem intercalate_dataLines (e : Event) :
    "\n".intercalate (e.dataLines.map String.ofList) =
      e.data := by
  have hLines :
      (e.dataLines.map String.ofList).map String.toList =
        e.dataLines := by
    simp [Function.comp_def]
  apply String.toList_injective
  rw [String.toList_intercalate, hLines]
  exact List.intercalate_splitOn '\n'

/- The lines of a framed event make one frame: its own. -/
theorem addLines_wireLines
    {e : Event}
    (hFramed : e.IsFramed) :
    empty.addLines (e.wireLines.map (· ++ ['\r'])) =
      (empty, [e]) := by
  have hType :
      empty.addLine
          (fieldLine "event" e.type.toList ++ ['\r']) =
        (⟨some e.type, [], none⟩, none) := by
    rw [addLine_fieldLine empty,
      Field.ofLine_event hFramed.type, String.ofList_toList]
    rfl
  have hData :
      addLines ⟨some e.type, [], none⟩
          ((e.dataLines.map (fieldLine "data")).map
            (· ++ ['\r'])) =
        (⟨some e.type, e.dataLines.map String.ofList, none⟩,
          []) :=
    addLines_data _ hFramed.data
  have hId :=
    addLines_id (some e.type) (e.dataLines.map String.ofList)
      hFramed.id
  have hEvent :
      event?
          ⟨some e.type, e.dataLines.map String.ofList, e.id⟩ =
        some e := by
    have hJoined := intercalate_dataLines e
    unfold event?
    cases hLines : e.dataLines.map String.ofList with
    | nil =>
        rw [List.map_eq_nil_iff] at hLines
        exact absurd hLines (List.splitOn_ne_nil _ _)
    | cons first rest =>
        rw [hLines] at hJoined
        simp [hJoined]
  rw [Event.wireLines, List.map_cons, addLines, hType,
    List.map_append, List.map_append, addLines_append,
    addLines_append, hData, hId]
  simp [addLines_return, hEvent]

/- Events follow each other without any trace. -/
theorem addLines_flatMap_wireLines
    {events : List Event}
    (hFramed : ∀ e ∈ events, e.IsFramed) :
    empty.addLines
        ((events.flatMap Event.wireLines).map (· ++ ['\r'])) =
      (empty, events) := by
  induction events with
  | nil => rfl
  | cons e events ih =>
      rw [List.forall_mem_cons] at hFramed
      rw [List.flatMap_cons, List.map_append, addLines_append,
        addLines_wireLines hFramed.1, ih hFramed.2]
      rfl

end Frame

/- The lines of a framed event hold no line feed. -/
theorem Event.IsFramed.lineFeed_notMem
    {e : Event}
    (hFramed : e.IsFramed) :
    ∀ line ∈ e.wireLines, '\n' ∉ line := by
  have hLine :
      ∀ name value, '\n' ∉ name.toList → Text.IsValue value →
        '\n' ∉ fieldLine name value := by
    intro name value hName hValue
    simp [fieldLine, hName, hValue.line]
  intro line hMember
  simp only [wireLines, List.mem_cons, List.mem_append,
    List.mem_map, List.not_mem_nil, or_false] at hMember
  rcases hMember with
    rfl | (⟨value, hData, rfl⟩ | ⟨id, hId, rfl⟩) | rfl
  · exact hLine _ _ (by decide) hFramed.type
  · exact hLine _ _ (by decide) (hFramed.data value hData)
  · rw [Option.mem_toList] at hId
    exact hLine _ _ (by decide) (hFramed.id id hId)
  · exact List.not_mem_nil

end EventFeed

------------------------------------------------------------
-- Values of a Frame
------------------------------------------------------------

namespace EventFeed

/- What is dropped in front of a text leaves a value. -/
theorem Text.isValue_trimStart
    {text : List Char}
    (hFeed : '\n' ∉ text) :
    Text.IsValue (Text.trimStart text) where
  line := fun hMember =>
    hFeed ((List.dropWhile_suffix _).subset hMember)
  head := by
    cases hRest : trimStart text with
    | nil => rfl
    | cons c rest => exact not_isBlank_head_trimStart hRest

theorem Event.isValue_messageType :
    Text.IsValue messageType.toList :=
  by decide

namespace Line

theorem mem_of_mem_dropReturn
    {line : Line}
    {c : Char}
    (hMember : c ∈ dropReturn line) :
    c ∈ line := by
  rw [dropReturn_eq, withoutReturn] at hMember
  split at hMember
  · exact List.dropLast_subset line hMember
  · exact hMember

/- The lines that a text is cut into hold no line feed. -/
theorem lineFeed_notMem_split_lines (text : List Char) :
    ∀ line ∈ (split text).1, '\n' ∉ line := by
  induction text with
  | nil => simp [split]
  | cons c text ih =>
      by_cases hFeed : c = '\n'
      · simpa [split, hFeed] using ih
      · cases hBelow : (split text).1 with
        | nil => simp [split, hFeed, hBelow]
        | cons first others =>
            rw [hBelow, List.forall_mem_cons] at ih
            have hFirst : '\n' ∉ c :: first := by
              simpa using ⟨Ne.symm hFeed, ih.1⟩
            rw [split, if_neg hFeed, hBelow]
            exact List.forall_mem_cons.mpr ⟨hFirst, ih.2⟩

end Line

/- A field that a line gives is a value. -/
theorem Field.isValue_of_value?
    {name : List Char}
    {line : Line}
    {value : String}
    (hFeed : '\n' ∉ line)
    (hValue : value? name line = some value) :
    Text.IsValue value.toList := by
  fun_induction value? name line with
  | case1 rest =>
      rw [Option.some.injEq] at hValue
      rw [← hValue, String.toList_ofList]
      apply Text.isValue_trimStart
      exact fun hMember => hFeed (List.mem_cons_of_mem _ hMember)
  | case2 ns c cs ih =>
      apply ih _ hValue
      exact fun hMember => hFeed (List.mem_cons_of_mem _ hMember)
  | case3 => contradiction
  | case4 => contradiction

namespace Frame

/- Everything that a frame keeps is a value. -/
structure Clean (frame : Frame) : Prop where
  type :
    ∀ value, frame.type? = some value →
      Text.IsValue value.toList
  data : ∀ value ∈ frame.data, Text.IsValue value.toList
  id :
    ∀ value, frame.id? = some value →
      Text.IsValue value.toList

namespace Clean

variable {frame : Frame}

theorem empty : Frame.empty.Clean :=
  ⟨nofun, nofun, nofun⟩

theorem add
    (hClean : frame.Clean)
    {line : Line}
    (hFeed : '\n' ∉ line) :
    (frame.add (Field.ofLine line)).Clean := by
  unfold Field.ofLine
  split
  · next value hValue =>
      refine ⟨?_, hClean.data, hClean.id⟩
      rintro _ ⟨⟩
      exact Field.isValue_of_value? hFeed hValue
  · split
    · next value hValue =>
        refine ⟨hClean.type, ?_, hClean.id⟩
        intro other hMember
        rcases List.mem_append.mp hMember with hOld | hNew
        · exact hClean.data other hOld
        · rw [List.mem_singleton.mp hNew]
          exact Field.isValue_of_value? hFeed hValue
    · split
      · next value hValue =>
          refine ⟨hClean.type, hClean.data, ?_⟩
          rintro _ ⟨⟩
          exact Field.isValue_of_value? hFeed hValue
      · exact hClean

/- The event of a frame that keeps values is framed. -/
theorem isFramed
    (hClean : frame.Clean)
    {e : Event}
    (hEvent : frame.event? = some e) :
    e.IsFramed := by
  unfold event? at hEvent
  split at hEvent
  · contradiction
  · next lines hSome =>
      rw [Option.some.injEq] at hEvent
      have hLines :
          ∀ line ∈ frame.data.map String.toList,
            Text.IsValue line := by
        intro line hMember
        rcases List.mem_map.mp hMember with ⟨value, hData, rfl⟩
        exact hClean.data value hData
      have hSplit :
          e.dataLines = frame.data.map String.toList := by
        rw [← hEvent, Event.dataLines,
          String.toList_intercalate]
        exact
          List.splitOn_intercalate '\n'
            (fun line hMember => (hLines line hMember).line)
            (by simpa using hSome)
      refine ⟨?_, ?_, ?_⟩
      · rw [← hEvent]
        cases hType : frame.type? with
        | none => exact Event.isValue_messageType
        | some value => exact hClean.type value hType
      · rw [hSplit]
        exact hLines
      · rw [← hEvent]
        exact hClean.id

/- Lines leave values in the frame, and framed events. -/
theorem addLines
    (hClean : frame.Clean)
    {lines : List Line}
    (hFeed : ∀ line ∈ lines, '\n' ∉ line) :
    (frame.addLines lines).1.Clean ∧
      ∀ e ∈ (frame.addLines lines).2, e.IsFramed := by
  induction lines generalizing frame with
  | nil => exact ⟨hClean, nofun⟩
  | cons line lines ih =>
      rw [List.forall_mem_cons] at hFeed
      have hText : '\n' ∉ Line.dropReturn line :=
        fun hMember =>
          hFeed.1 (Line.mem_of_mem_dropReturn hMember)
      rw [Frame.addLines, addLine]
      cases hLine : Line.dropReturn line with
      | nil =>
          rcases ih .empty hFeed.2 with ⟨hLater, hEvents⟩
          refine ⟨hLater, ?_⟩
          intro e hMember
          rcases List.mem_append.mp hMember with hOne | hMore
          · rw [Option.mem_toList] at hOne
            exact hClean.isFramed hOne
          · exact hEvents e hMore
      | cons c text =>
          rw [hLine] at hText
          exact ih (hClean.add hText) hFeed.2

end Clean

end Frame

end EventFeed

------------------------------------------------------------
-- Chunks of a Wire Form
------------------------------------------------------------

namespace EventFeed

namespace FrameReader

/-
  What a reader makes of chunks is what it makes of the text
  that they spell; the bytes of an unfinished character are
  carried on.
-/
theorem Reached.feedAll_eq_feedText
    {reader : FrameReader}
    (hReader : reader.Reached)
    (chunks : List (List UInt8)) :
    reader.feedAll chunks =
      { reader with
        carried :=
          (Utf8.decode reader.carried
            chunks.flatten).2 }.feedText
        (Utf8.decode reader.carried chunks.flatten).1 := by
  induction chunks generalizing reader with
  | nil => exact hReader.feed_nil.symm
  | cons chunk chunks ih =>
      have hRest := ih (hReader.chunk chunk)
      rw [feedAll, hRest, List.flatten_cons,
        Utf8.decode_append, feedText_append]
      rfl

/- A reader that has read anything keeps values only. -/
theorem Reached.clean
    {reader : FrameReader}
    (hReader : reader.Reached) :
    reader.frame.Clean := by
  induction hReader with
  | new => exact .empty
  | chunk _ chunk ih =>
      exact (ih.addLines (Line.lineFeed_notMem_split_lines _)).1
  | text _ text ih =>
      exact (ih.addLines (Line.lineFeed_notMem_split_lines _)).1

/- And the events that it finds are framed. -/
theorem Reached.isFramed_of_mem_feedAll
    {reader : FrameReader}
    (hReader : reader.Reached)
    {chunks : List (List UInt8)}
    {e : Event}
    (hEvent : e ∈ (reader.feedAll chunks).2) :
    e.IsFramed := by
  rw [hReader.feedAll_eq_feedText] at hEvent
  have hLines :=
    hReader.clean.addLines
      (Line.lineFeed_notMem_split_lines
        (reader.line ++
          (Utf8.decode reader.carried chunks.flatten).1))
  exact hLines.2 e hEvent

/- However it was cut, the wire form of events is read back. -/
theorem feedAll_new_of_isFramed
    {events : List Event}
    (hFramed : ∀ e ∈ events, e.IsFramed)
    {chunks : List (List UInt8)}
    (hBytes :
      chunks.flatten =
        Utf8.encodeText (events.flatMap Event.wire)) :
    new.feedAll chunks = (new, events) := by
  have hFeed :
      ∀ line ∈ events.flatMap Event.wireLines, '\n' ∉ line := by
    intro line hMember
    rcases List.mem_flatMap.mp hMember with ⟨e, hEvent, hLine⟩
    exact (hFramed e hEvent).lineFeed_notMem line hLine
  have hText :
      events.flatMap Event.wire =
        (events.flatMap Event.wireLines).flatMap
          fun line => line ++ ['\r', '\n'] :=
    List.flatMap_assoc.symm
  have hDecoded :
      Utf8.decode new.carried chunks.flatten =
        (events.flatMap Event.wire, []) := by
    rw [hBytes]
    exact Utf8.decode_encodeText _
  rw [Reached.new.feedAll_eq_feedText, hDecoded, hText]
  simp only [feedText, new, List.nil_append,
    Line.split_flatMap hFeed,
    Frame.addLines_flatMap_wireLines hFramed]

/-
  The wire forms of framed events, in UTF-8 and cut into any
  chunks, are read back as just those events, and leave the
  reader as it was: new and idle.  And whatever a reader has
  read before, and whatever bytes it is given in whatever
  chunks, each event that it finds is framed, so that its own
  wire form is read back as that event alone.
-/
theorem feedAll_wire :
    (∀ (events : List Event) (chunks : List (List UInt8)),
        (∀ e ∈ events, e.IsFramed) →
        chunks.flatten =
          Utf8.encodeText (events.flatMap Event.wire) →
          new.feedAll chunks = (new, events)) ∧
      new.isIdle = true ∧
      ∀ (reader : FrameReader) (garbage : List (List UInt8))
        (e : Event),
        reader.Reached →
        e ∈ (reader.feedAll garbage).2 →
          e.IsFramed ∧
            ∀ chunks : List (List UInt8),
              chunks.flatten = Utf8.encodeText e.wire →
                new.feedAll chunks = (new, [e]) := by
  refine ⟨?_, rfl, ?_⟩
  · intro events chunks hFramed hBytes
    exact feedAll_new_of_isFramed hFramed hBytes
  · intro reader garbage e hReader hEvent
    have hFramed := hReader.isFramed_of_mem_feedAll hEvent
    refine ⟨hFramed, ?_⟩
    intro chunks hBytes
    apply feedAll_new_of_isFramed
    · simpa using hFramed
    · simpa using hBytes

/-
  An event with an empty type, an empty line and a return at
  the end of a line arrives byte by byte, twice; and a byte
  that spells nothing is read as an event of its own.
-/
theorem feedAll_wire_byte_by_byte :
    ∃ (e found : Event) (chunks garbage : List (List UInt8)),
      e = ⟨"", "a\r\n\né", some "7"⟩ ∧
        found = Event.message "\ufffd" ∧
        (∀ chunk ∈ chunks, chunk.length = 1) ∧
        garbage =
          [[0x64, 0x61, 0x74, 0x61, 0x3a, 0xff], [0x0a, 0x0a]] ∧
        new.feedAll chunks = (new, [e, e]) ∧
        found ∈ (new.feedAll garbage).2 ∧
        found.IsFramed := by
  have hFound :
      Event.message "\ufffd" ∈
        (new.feedAll
          [[0x64, 0x61, 0x74, 0x61, 0x3a, 0xff],
            [0x0a, 0x0a]]).2 := by
    decide +kernel
  have hRead :=
    feedAll_wire.1
      [⟨"", "a\r\n\né", some "7"⟩, ⟨"", "a\r\n\né", some "7"⟩]
      ((Utf8.encodeText _).map fun b => [b])
      (by decide +kernel)
      (by rw [← List.flatMap_def, List.flatMap_singleton'])
  have hFramed := (feedAll_wire.2.2 new _ _ .new hFound).1
  exact
    ⟨_, _, _, _, rfl, rfl, by simp, rfl, hRead, hFound, hFramed⟩

end FrameReader

end EventFeed
