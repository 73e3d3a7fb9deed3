import EventFeed.Attempt.Stream
import EventFeed.Proofs.Frame.Wire

/-
  This file says which events both readers of a feed find
  alike.

  One reader cuts a body into frames, the other one follows
  the grammar of event streams.  They differ on what ends a
  line, on how many blanks after a colon are dropped, on what
  stands for a field that is missing or empty, and on how
  long an id stays in force.  Events that avoid all of this
  are common to both.

  Key definitions include:
    * `Text.IsPlain`
    * `Event.plainWire`
    * `Event.IsCommon`

  Key results include:
    * `FrameReader.feedAll_plainWire`
    * `Stream.events_plainWire`
-/

------------------------------------------------------------
-- Common Events
------------------------------------------------------------

namespace EventFeed

/- Whether a text is a value that holds no return either. -/
structure Text.IsPlain (text : List Char) : Prop where
  value : Text.IsValue text
  noReturn : '\r' ∉ text

instance (text : List Char) : Decidable (Text.IsPlain text) :=
  decidable_of_iff (Text.IsValue text ∧ '\r' ∉ text)
    ⟨fun h => ⟨h.1, h.2⟩, fun h => ⟨h.value, h.noReturn⟩⟩

namespace Event

/- The text of an event; each of its lines ends with LF. -/
def plainWire (e : Event) : List Char :=
  e.wireLines.flatMap fun line => line ++ ['\n']

/-
  Both a type and an id are given, the id can be remembered,
  and all that is written is plain.
-/
structure IsCommon (e : Event) : Prop where
  type : Text.IsPlain e.type.toList
  named : e.type ≠ ""
  data : ∀ line ∈ e.dataLines, Text.IsPlain line
  id :
    ∃ id ∈ e.id,
      Text.IsPlain id.toList ∧ id ≠ "" ∧ '\x00' ∉ id.toList

namespace IsCommon

variable {e : Event}

theorem framed (hCommon : e.IsCommon) : e.IsFramed where
  type := hCommon.type.value
  data := fun line hMember => (hCommon.data line hMember).value
  id := by
    rcases hCommon.id with ⟨given, hGiven, hPlain, -⟩
    intro id hId
    rw [Option.mem_unique hId hGiven]
    exact hPlain.value

/- The lines of a common event hold no return. -/
theorem return_notMem
    (hCommon : e.IsCommon) :
    ∀ line ∈ e.wireLines, '\r' ∉ line := by
  have hLine :
      ∀ name value, '\r' ∉ name.toList → Text.IsPlain value →
        '\r' ∉ fieldLine name value := by
    intro name value hName hValue
    simp [fieldLine, hName, hValue.noReturn]
  rcases hCommon.id with ⟨given, hGiven, hPlain, -⟩
  intro line hMember
  simp only [wireLines, List.mem_cons, List.mem_append,
    List.mem_map, List.not_mem_nil, or_false] at hMember
  rcases hMember with
    rfl | (⟨value, hData, rfl⟩ | ⟨id, hId, rfl⟩) | rfl
  · exact hLine _ _ (by decide) hCommon.type
  · exact hLine _ _ (by decide) (hCommon.data value hData)
  · rw [Option.mem_toList] at hId
    rw [Option.mem_unique hId hGiven]
    exact hLine _ _ (by decide) hPlain
  · exact List.not_mem_nil

end IsCommon

/- No line of common events holds anything that ends one. -/
theorem lineEnd_notMem
    {events : List Event}
    (hCommon : ∀ e ∈ events, e.IsCommon) :
    ∀ line ∈ events.flatMap wireLines,
      '\n' ∉ line ∧ '\r' ∉ line := by
  intro line hMember
  rcases List.mem_flatMap.mp hMember with ⟨e, hEvent, hLine⟩
  have hOne := hCommon e hEvent
  exact
    ⟨hOne.framed.lineFeed_notMem line hLine,
      hOne.return_notMem line hLine⟩

/- The text of events is that of all their lines. -/
theorem flatMap_plainWire (events : List Event) :
    events.flatMap plainWire =
      (events.flatMap wireLines).flatMap
        fun line => line ++ ['\n'] :=
  List.flatMap_assoc.symm

end Event

end EventFeed

------------------------------------------------------------
-- Read in Frames
------------------------------------------------------------

namespace EventFeed

/- Lines that end with LF are cut at their ends. -/
theorem Line.split_flatMap_lineFeed
    {lines : List Line}
    (hFeed : ∀ line ∈ lines, '\n' ∉ line) :
    split (lines.flatMap fun line => line ++ ['\n']) =
      (lines, []) := by
  induction lines with
  | nil => rfl
  | cons line lines ih =>
      rw [List.forall_mem_cons] at hFeed
      rw [List.flatMap_cons, List.append_assoc,
        List.singleton_append, split_append_lineFeed hFeed.1,
        ih hFeed.2]

/- No return is dropped from a line that holds none. -/
theorem Line.dropReturn_of_notMem
    {line : Line}
    (hReturn : '\r' ∉ line) :
    dropReturn line = line := by
  rw [dropReturn_eq, withoutReturn, if_neg]
  intro hLast
  exact hReturn (List.mem_of_mem_getLast? hLast)

/- A return at the end of its lines makes no difference. -/
theorem Frame.addLines_concat_return
    (frame : Frame)
    {lines : List Line}
    (hReturn : ∀ line ∈ lines, '\r' ∉ line) :
    frame.addLines (lines.map (· ++ ['\r'])) =
      frame.addLines lines := by
  induction lines generalizing frame with
  | nil => rfl
  | cons line lines ih =>
      rw [List.forall_mem_cons] at hReturn
      have hLine :
          frame.addLine (line ++ ['\r']) = frame.addLine line := by
        unfold addLine
        rw [Line.dropReturn_concat,
          Line.dropReturn_of_notMem hReturn.1]
      rw [List.map_cons, addLines, addLines, hLine,
        ih _ hReturn.2]

/- However it was cut, the text of common events is read. -/
theorem FrameReader.feedAll_plainWire
    {events : List Event}
    (hCommon : ∀ e ∈ events, e.IsCommon)
    {chunks : List (List UInt8)}
    (hBytes :
      chunks.flatten =
        Utf8.encodeText (events.flatMap Event.plainWire)) :
    new.feedAll chunks = (new, events) := by
  have hFramed : ∀ e ∈ events, e.IsFramed :=
    fun e hEvent => (hCommon e hEvent).framed
  have hEnds := Event.lineEnd_notMem hCommon
  have hFeed :
      ∀ line ∈ events.flatMap Event.wireLines, '\n' ∉ line :=
    fun line hMember => (hEnds line hMember).1
  have hReturn :
      ∀ line ∈ events.flatMap Event.wireLines, '\r' ∉ line :=
    fun line hMember => (hEnds line hMember).2
  have hDecoded :
      Utf8.decode new.carried chunks.flatten =
        (events.flatMap Event.plainWire, []) := by
    rw [hBytes]
    exact Utf8.decode_encodeText _
  have hLines :
      Frame.empty.addLines (events.flatMap Event.wireLines) =
        (Frame.empty, events) := by
    rw [← Frame.addLines_concat_return _ hReturn]
    exact Frame.addLines_flatMap_wireLines hFramed
  rw [Reached.new.feedAll_eq_feedText, hDecoded,
    Event.flatMap_plainWire]
  simp only [feedText, new, List.nil_append,
    Line.split_flatMap_lineFeed hFeed, hLines]

end EventFeed

------------------------------------------------------------
-- Read by the Grammar
------------------------------------------------------------

namespace EventFeed

namespace Stream

open Event (fieldLine)

/- A line feed ends a line that holds no other end. -/
theorem linesFrom_append_lineFeed
    (before : List Char)
    {line : List Char}
    (hFeed : '\n' ∉ line)
    (hReturn : '\r' ∉ line)
    (rest : List Char) :
    linesFrom before (line ++ '\n' :: rest) =
      (before.reverse ++ line) :: linesFrom [] rest := by
  induction line generalizing before with
  | nil => simp [linesFrom]
  | cons c line ih =>
      rw [List.mem_cons, not_or] at hFeed hReturn
      have hNext :
          linesFrom before (c :: (line ++ '\n' :: rest)) =
            linesFrom (c :: before) (line ++ '\n' :: rest) := by
        rw [linesFrom]
        · exact fun _ hSame _ => hReturn.1 hSame.symm
        · exact fun hSame _ => hReturn.1 hSame.symm
        · exact fun hSame => hReturn.1 hSame.symm
        · exact fun hSame => hFeed.1 hSame.symm
      rw [List.cons_append, hNext, ih _ hFeed.2 hReturn.2]
      simp

theorem linesFrom_flatMap
    {lines : List Line}
    (hEnds : ∀ line ∈ lines, '\n' ∉ line ∧ '\r' ∉ line) :
    linesFrom [] (lines.flatMap fun line => line ++ ['\n']) =
      lines := by
  induction lines with
  | nil => rfl
  | cons line lines ih =>
      rw [List.forall_mem_cons] at hEnds
      rw [List.flatMap_cons, List.append_assoc,
        List.singleton_append,
        linesFrom_append_lineFeed _ hEnds.1.1 hEnds.1.2,
        ih hEnds.2]
      rfl

namespace Field

/- The name of a field stands before its colon. -/
theorem takeWhile_fieldLine
    {name : String}
    (hName : name.toList.all (· != ':') = true)
    (value : List Char) :
    (fieldLine name value).takeWhile (· != ':') =
      name.toList := by
  unfold fieldLine
  rw [List.takeWhile_append_of_pos (List.all_eq_true.mp hName),
    List.takeWhile_cons_of_neg (by decide), List.append_nil]

/- And its value after it, for it starts with no space. -/
theorem value_fieldLine
    {name : String}
    (hName : name.toList.all (· != ':') = true)
    {text : List Char}
    (hValue : Text.IsValue text) :
    value ((fieldLine name text).dropWhile (· != ':')) =
      String.ofList text := by
  have hHead := hValue.head
  unfold fieldLine
  rw [List.dropWhile_append_of_pos (List.all_eq_true.mp hName),
    List.dropWhile_cons_of_neg (by decide)]
  cases text with
  | nil => rfl
  | cons c rest =>
      rw [value]
      rintro _ ⟨⟩
      have hSpace : Text.isBlank ' ' = false := hHead
      contradiction

theorem ofLine_event
    {text : List Char}
    (hValue : Text.IsValue text) :
    ofLine (fieldLine "event" text) =
      .type (String.ofList text) := by
  unfold ofLine
  rw [takeWhile_fieldLine rfl, value_fieldLine rfl hValue]
  rfl

theorem ofLine_data
    {text : List Char}
    (hValue : Text.IsValue text) :
    ofLine (fieldLine "data" text) =
      .data (String.ofList text) := by
  unfold ofLine
  rw [takeWhile_fieldLine rfl, value_fieldLine rfl hValue]
  rfl

/- An id is remembered if there is no NUL in it. -/
theorem ofLine_id
    {text : List Char}
    (hValue : Text.IsValue text)
    (hNul : '\x00' ∉ text) :
    ofLine (fieldLine "id" text) =
      .id (String.ofList text) := by
  unfold ofLine
  rw [takeWhile_fieldLine rfl, value_fieldLine rfl hValue]
  simp [hNul]

end Field

namespace Block

/- The line of a field adds the field. -/
theorem events_fieldLine
    (b : Block)
    (name : String)
    (value : List Char)
    (rest : List (List Char)) :
    b.events (fieldLine name value :: rest) =
      (b.add (Field.ofLine (fieldLine name value))).events
        rest := by
  cases hLine : fieldLine name value with
  | nil => simp [fieldLine] at hLine
  | cons c line => rfl

theorem events_data
    (b : Block)
    {values : List (List Char)}
    (hValues : ∀ value ∈ values, Text.IsValue value)
    (rest : List (List Char)) :
    b.events (values.map (fieldLine "data") ++ rest) =
      { b with
        data := b.data ++ values.map String.ofList }.events
        rest := by
  induction values generalizing b with
  | nil => simp
  | cons value values ih =>
      rw [List.forall_mem_cons] at hValues
      rw [List.map_cons, List.cons_append, events_fieldLine,
        Field.ofLine_data hValues.1, ih _ hValues.2]
      simp [add]

/-
  The lines of a common event make one block, whatever id was
  in force before; its own is in force after it.
-/
theorem events_wireLines
    {e : Event}
    (hCommon : e.IsCommon)
    (before : String) :
    ∃ after,
      ∀ rest,
        (withId before).events (e.wireLines ++ rest) =
          e :: (withId after).events rest := by
  rcases hCommon.id with ⟨id, hGiven, hPlain, hSome, hNul⟩
  have hData :
      ∀ value ∈ e.dataLines, Text.IsValue value :=
    fun value hMember => (hCommon.data value hMember).value
  have hEvent :
      event? ⟨e.type, e.dataLines.map String.ofList, id⟩ =
        some e := by
    have hJoined := Frame.intercalate_dataLines e
    unfold event?
    cases hLines : e.dataLines.map String.ofList with
    | nil =>
        rw [List.map_eq_nil_iff] at hLines
        exact absurd hLines (List.splitOn_ne_nil _ _)
    | cons first others =>
        rw [hLines] at hJoined
        simp only [hJoined, hCommon.named, hSome, if_false]
        rw [← Option.mem_def.mp hGiven]
  refine ⟨id, ?_⟩
  intro rest
  have hIds :
      (e.id.toList.map fun id => fieldLine "id" id.toList) =
        [fieldLine "id" id.toList] := by
    rw [Option.mem_def.mp hGiven]
    rfl
  rw [Event.wireLines, hIds, List.cons_append, events_fieldLine,
    Field.ofLine_event hCommon.type.value, List.append_assoc,
    List.append_assoc, events_data _ hData, List.singleton_append,
    events_fieldLine, Field.ofLine_id hPlain.value hNul]
  simp [withId, add, events, hEvent]

/- Events follow each other, each with its own id. -/
theorem events_flatMap_wireLines
    {events : List Event}
    (hCommon : ∀ e ∈ events, e.IsCommon)
    (before : String) :
    (withId before).events (events.flatMap Event.wireLines) =
      events := by
  induction events generalizing before with
  | nil => rfl
  | cons e events ih =>
      rw [List.forall_mem_cons] at hCommon
      rcases events_wireLines hCommon.1 before with
        ⟨after, hFirst⟩
      rw [List.flatMap_cons, hFirst, ih hCommon.2]

end Block

/- The text of events never starts with a mark. -/
theorem dropMark_plainWire (events : List Event) :
    dropMark (events.flatMap Event.plainWire) =
      events.flatMap Event.plainWire := by
  cases events <;> rfl

/- The text of common events is read by the grammar, too. -/
theorem events_plainWire
    {events : List Event}
    (hCommon : ∀ e ∈ events, e.IsCommon) :
    Stream.events (events.flatMap Event.plainWire) =
      events := by
  have hEnds := Event.lineEnd_notMem hCommon
  rw [Stream.events, lines, dropMark_plainWire,
    Event.flatMap_plainWire, linesFrom_flatMap hEnds,
    Block.events_flatMap_wireLines hCommon]

end Stream

end EventFeed
