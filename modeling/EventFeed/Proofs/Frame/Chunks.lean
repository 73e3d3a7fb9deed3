import EventFeed.Frame

/-
  This file proves that it does not matter to a reader of
  frames how the bytes of a feed were cut into chunks.

  Each of the three levels at which a reader keeps something
  unfinished has its own law of concatenation: the bytes of a
  character, the characters of a line and the fields of a
  frame.  The laws compose because the line that is kept
  never holds a line feed.

  Key definitions include:
    * `FrameReader.Reached`

  Key results include:
    * `Line.split_append`
    * `Frame.addLines_append`
    * `FrameReader.feed_append`
    * `FrameReader.feedAll_eq_feed_flatten`
-/

------------------------------------------------------------
-- Cutting at Line Feeds
------------------------------------------------------------

namespace EventFeed

namespace Line

/- The rest that no line feed has ended holds no line feed. -/
theorem lineFeed_notMem_split_rest (cs : List Char) :
    '\n' ∉ (split cs).2 := by
  induction cs with
  | nil => simp [split]
  | cons c cs ih =>
      by_cases hFeed : c = '\n'
      · simpa [split, hFeed] using ih
      · cases hBelow : (split cs).1 with
        | nil =>
            simp only [split, hFeed, hBelow, if_false,
              List.mem_cons, not_or]
            exact ⟨Ne.symm hFeed, ih⟩
        | cons first others =>
            simpa [split, hFeed, hBelow] using ih

/- A text without a line feed is all rest. -/
theorem split_of_lineFeed_notMem
    {cs : List Char}
    (hFeed : '\n' ∉ cs) :
    split cs = ([], cs) := by
  induction cs with
  | nil => rfl
  | cons c cs ih =>
      rw [List.mem_cons, not_or] at hFeed
      have hHead : c ≠ '\n' := Ne.symm hFeed.1
      have hBelow : split cs = ([], cs) := ih hFeed.2
      simp [split, hHead, hBelow]

/-
  Text that comes later only continues the rest: the lines
  that are complete stay as they are.
-/
theorem split_append (a b : List Char) :
    split (a ++ b) =
      ((split a).1 ++ (split ((split a).2 ++ b)).1,
        (split ((split a).2 ++ b)).2) := by
  induction a with
  | nil => simp [split]
  | cons c a ih =>
      by_cases hFeed : c = '\n'
      · simp [split, hFeed, ih]
      · cases hBelow : (split a).1 with
        | nil =>
            -- no line is complete, so `c` still heads the rest
            rw [hBelow, List.nil_append] at ih
            simp [split, hFeed, hBelow, ih]
        | cons first others =>
            simp [split, hFeed, hBelow, ih]

end Line

end EventFeed

------------------------------------------------------------
-- Taking in Lines
------------------------------------------------------------

namespace EventFeed

namespace Frame

/- Lines may be taken in at once or in two parts. -/
theorem addLines_append
    (frame : Frame)
    (a b : List Line) :
    frame.addLines (a ++ b) =
      (((frame.addLines a).1.addLines b).1,
        (frame.addLines a).2 ++
          ((frame.addLines a).1.addLines b).2) := by
  induction a generalizing frame with
  | nil => simp [addLines]
  | cons line a ih => simp [addLines, ih]

end Frame

end EventFeed

------------------------------------------------------------
-- Readers That Have Read Something
------------------------------------------------------------

namespace EventFeed

namespace FrameReader

/-
  A reader that has read nothing but chunks of bytes and
  decoded texts, in any order.
-/
inductive Reached : FrameReader → Prop
  | new : Reached FrameReader.new
  | chunk
      {reader : FrameReader}
      (hReader : Reached reader)
      (chunk : List UInt8) :
      Reached (reader.feed chunk).1
  | text
      {reader : FrameReader}
      (hReader : Reached reader)
      (text : List Char) :
      Reached (reader.feedText text).1

/- The line that a reader keeps holds no line feed. -/
theorem Reached.lineFeed_notMem_line
    {reader : FrameReader}
    (hReader : reader.Reached) :
    '\n' ∉ reader.line := by
  cases hReader with
  | new => simp [FrameReader.new]
  | chunk _ chunk => exact Line.lineFeed_notMem_split_rest _
  | text _ text => exact Line.lineFeed_notMem_split_rest _

/- An empty chunk changes nothing and completes nothing. -/
theorem Reached.feed_nil
    {reader : FrameReader}
    (hReader : reader.Reached) :
    reader.feed [] = (reader, []) := by
  have hSplit : Line.split reader.line = ([], reader.line) :=
    Line.split_of_lineFeed_notMem hReader.lineFeed_notMem_line
  simp [feed, feedText, Utf8.decode, hSplit, Frame.addLines]

end FrameReader

end EventFeed

------------------------------------------------------------
-- Independence of Chunks
------------------------------------------------------------

namespace EventFeed

namespace FrameReader

/- A cut between two decoded texts changes nothing. -/
theorem feedText_append
    (reader : FrameReader)
    (a b : List Char) :
    reader.feedText (a ++ b) =
      (((reader.feedText a).1.feedText b).1,
        (reader.feedText a).2 ++
          ((reader.feedText a).1.feedText b).2) := by
  simp only [feedText]
  rw [← List.append_assoc, Line.split_append,
    Frame.addLines_append]

/- Which bytes are carried is no concern of decoded text. -/
theorem feedText_withCarried
    (reader : FrameReader)
    (carried : List UInt8)
    (text : List Char) :
    { reader with carried := carried }.feedText text =
      ({ (reader.feedText text).1 with carried := carried },
        (reader.feedText text).2) :=
  rfl

/- A cut between two chunks of bytes changes nothing. -/
theorem feed_append
    (reader : FrameReader)
    (a b : List UInt8) :
    reader.feed (a ++ b) =
      (((reader.feed a).1.feed b).1,
        (reader.feed a).2 ++ ((reader.feed a).1.feed b).2) := by
  simp only [feed, Utf8.decode_append, feedText_withCarried,
    feedText_append]

/-
  However the bytes are cut into chunks, reading the chunks
  one after the other completes the same events in the same
  order as reading the bytes at once, and it leaves the
  reader in the same state: the same carried bytes, the same
  unended line and the same fields of the frame.
-/
theorem feedAll_eq_feed_flatten
    {reader : FrameReader}
    (hReader : reader.Reached)
    (chunks : List (List UInt8)) :
    reader.feedAll chunks = reader.feed chunks.flatten := by
  induction chunks generalizing reader with
  | nil =>
      rw [List.flatten_nil, hReader.feed_nil]
      rfl
  | cons chunk chunks ih =>
      have hRest := ih (hReader.chunk chunk)
      rw [List.flatten_cons, feed_append, feedAll, hRest]

/-
  The reader stands inside a character, and the cuts go
  through the character, both line ends and the empty line.
-/
theorem feedAll_eq_feed_flatten_inside_character :
    let reader :=
      (FrameReader.new.feed
        [0x64, 0x61, 0x74, 0x61, 0x3a, 0xc3]).1
    reader.Reached ∧
      reader.carried = [0xc3] ∧
      reader.feedAll
          [[0xa9, 0x0d], [], [0x0a, 0x0d], [0x0a, 0x3a]] =
        reader.feed [0xa9, 0x0d, 0x0a, 0x0d, 0x0a, 0x3a] ∧
      (reader.feed
          [0xa9, 0x0d, 0x0a, 0x0d, 0x0a, 0x3a]).2 =
        [Event.message "é"] := by
  refine ⟨.chunk .new _, by decide, ?_, by decide +kernel⟩
  exact feedAll_eq_feed_flatten (.chunk .new _)
    [[0xa9, 0x0d], [], [0x0a, 0x0d], [0x0a, 0x3a]]

end FrameReader

end EventFeed
