import EventFeed.Proofs.Frame.Wire
import EventFeed.Proofs.Text.Lossy

/-
  This file proves that a reader settles bytes as lossy
  decoding does, however they are cut into chunks, and that
  two line feeds make a new reader of it.

  What is carried between two chunks has begun a character,
  so what the chunks come to can be told from their bytes
  alone.  A line feed goes on with no character: it settles
  the carried bytes, and it ends the line.  The next one ends
  the frame, with data or without.

  Key results include:
    * `FrameReader.lossy_feedAll`
    * `FrameReader.feed_blank_line`
-/

------------------------------------------------------------
-- Chunks Are Decoded Lossily
------------------------------------------------------------

namespace EventFeed

namespace FrameReader

variable {chunks : List (List UInt8)}
variable {text : List Char}
variable {carried : List UInt8}

/- A new reader reads the text that its chunks come to. -/
theorem feedAll_new_eq
    (hDecoded : Utf8.decodeEach [] chunks = (text, carried)) :
    new.feedAll chunks =
      ({ (new.feedText text).1 with carried := carried },
        (new.feedText text).2) := by
  have hWhole :
      Utf8.decode [] chunks.flatten = (text, carried) := by
    rw [← Utf8.decodeEach_eq, hDecoded]
  calc
    new.feedAll chunks =
        { new with
          carried :=
            (Utf8.decode [] chunks.flatten).2 }.feedText
          (Utf8.decode [] chunks.flatten).1 :=
      Reached.new.feedAll_eq_feedText chunks
    _ = _ := by rw [hWhole, feedText_withCarried]

/- What it carries has begun a character. -/
theorem started_feedAll_new (chunks : List (List UInt8)) :
    Utf8.Started (new.feedAll chunks).1.carried := by
  rw [feedAll_new_eq (Prod.eta _).symm, Utf8.decodeEach_eq]
  exact Utf8.started_decode chunks.flatten

/-
  The chunks that a new reader reads one after the other come
  to one text, and the reader makes of them what it makes of
  that text.

  The text, with one replacement for bytes still carried at
  the end, is the lossy decoding of all the bytes, and no
  other text is.  After each chunk the carried bytes begin a
  character, so they are three at most, and one strict
  reading for each fault settles the next chunk.  The bytes
  of a string come to just that string.
-/
theorem lossy_feedAll (chunks : List (List UInt8)) :
    ∃ text carried,
      Utf8.decodeEach [] chunks = (text, carried) ∧
        new.feedAll chunks =
          ({ (new.feedText text).1 with carried := carried },
            (new.feedText text).2) ∧
        (∀ whole,
          Utf8.Lossy chunks.flatten whole ↔
            whole =
              text ++
                if carried = [] then []
                else [Utf8.replacement]) ∧
        (∀ n,
          let kept := (new.feedAll (chunks.take n)).1.carried
          Utf8.Begins kept ∧
            kept.length ≤ 3 ∧
            ∀ chunk,
              Utf8.sweep ((kept ++ chunk).length + 1)
                  (kept ++ chunk) =
                some (Utf8.decode kept chunk)) ∧
        (∀ s : String,
          chunks.flatten = s.toUTF8.data.toList →
            text = s.toList ∧
              carried = [] ∧
              new.feedAll chunks = new.feedText s.toList) := by
  cases hDecoded : Utf8.decodeEach [] chunks with
  | mk text carried =>
      have hWhole :
          Utf8.decode [] chunks.flatten = (text, carried) := by
        rw [← Utf8.decodeEach_eq, hDecoded]
      have hRead := feedAll_new_eq hDecoded
      refine ⟨text, carried, rfl, hRead, ?_, ?_, ?_⟩
      · intro whole
        rw [Utf8.lossy_iff, Utf8.decodeAll_eq, hWhole]
      · intro n
        have hStarted := started_feedAll_new (chunks.take n)
        exact
          ⟨hStarted.begins, hStarted.length_le,
            Utf8.sweep_carried hStarted⟩
      · intro s hBytes
        rw [hBytes, Utf8.toUTF8_eq, Utf8.decode_encodeText,
          Prod.mk.injEq] at hWhole
        obtain ⟨rfl, rfl⟩ := hWhole
        exact ⟨rfl, rfl, hRead⟩

/-
  A character of three bytes is cut after its first one and
  its second one; then a lead byte and a line feed follow.
-/
theorem lossy_feedAll_cut_character :
    let chunks : List (List UInt8) :=
      [[0xe2], [0x82], [0xac], [0xc3, 0x0a]]
    Utf8.Lossy chunks.flatten ['€', Utf8.replacement, '\n'] ∧
      (new.feedAll (chunks.take 2)).1.carried = [0xe2, 0x82] ∧
      Utf8.Begins [0xe2, 0x82] ∧
      new.feedAll (chunks.take 3) = new.feedText ['€'] := by
  intro chunks
  obtain ⟨text, carried, hDecoded, _, hLossy, hKept, _⟩ :=
    lossy_feedAll chunks
  obtain ⟨_, _, _, _, _, _, hString⟩ :=
    lossy_feedAll (chunks.take 3)
  have hText :
      (['€', Utf8.replacement, '\n'], []) = (text, carried) :=
    Eq.trans (by decide +kernel) hDecoded
  have hCarried :
      (new.feedAll (chunks.take 2)).1.carried = [0xe2, 0x82] := by
    decide +kernel
  have hBegins := (hKept 2).1
  rw [hCarried] at hBegins
  obtain ⟨rfl, rfl⟩ := Prod.mk.inj hText
  exact
    ⟨(hLossy _).mpr rfl, hCarried, hBegins,
      (hString "€" (by decide +kernel)).2.2⟩

end FrameReader

end EventFeed

------------------------------------------------------------
-- Frames Are Isolated
------------------------------------------------------------

namespace EventFeed

/- A line feed goes on with no character. -/
theorem Utf8.decode_lineFeed
    (carried rest : List UInt8) :
    decode carried (0x0a :: rest) =
      ((if carried = [] then [] else [replacement]) ++
          '\n' :: (decode [] rest).1,
        (decode [] rest).2) := by
  have hStart : start 0x0a = (['\n'], []) := rfl
  have hSecond (lead : UInt8) : secondOk lead 0x0a = false := by
    rw [← Bool.not_eq_true, secondOk_iff]
    rintro ⟨⟨hLow, _⟩, _⟩
    exact absurd hLow (by decide)
  cases carried with
  | nil => simp [decode, push, hStart]
  | cons lead others =>
      have hContinues :
          continues (lead :: others) 0x0a = false := by
        cases others with
        | nil => exact hSecond lead
        | cons b others => rfl
      simp [decode, push, hContinues, hStart]

namespace FrameReader

/- A line feed leaves no line that has not ended. -/
theorem line_feedText_lineFeed
    (reader : FrameReader)
    (text : List Char) :
    (reader.feedText (text ++ ['\n'])).1.line = [] := by
  have hLast :
      (Line.split
        ((Line.split (reader.line ++ text)).2 ++ ['\n'])).2 =
        [] := by
    rw [Line.split_append_lineFeed
      (Line.lineFeed_notMem_split_rest _)]
    rfl
  unfold feedText
  dsimp only
  rw [← List.append_assoc, Line.split_append]
  exact hLast

/- One more ends the frame, with data or without. -/
theorem feedText_blank_line
    {reader : FrameReader}
    (hLine : reader.line = []) :
    (reader.feedText ['\n']).1 =
      { reader with line := [], frame := Frame.empty } := by
  unfold feedText
  rw [hLine]
  rfl

/-
  Two line feeds leave a reader that has read nothing,
  whatever has been read before: the first one settles the
  carried bytes and ends the line, the second one ends the
  frame.  So what has been read before them says nothing
  about the events that come after them.
-/
theorem feed_blank_line
    (reader : FrameReader) :
    (reader.feed [0x0a, 0x0a]).1 = new ∧
      new.isIdle = true ∧
      ∀ g s,
        reader.feed (g ++ 0x0a :: 0x0a :: s) =
          ((new.feed s).1,
            (reader.feed (g ++ [0x0a, 0x0a])).2 ++
              (new.feed s).2) := by
  have hNew (reader : FrameReader) :
      (reader.feed [0x0a, 0x0a]).1 = new := by
    have hText :
        Utf8.decode reader.carried [0x0a, 0x0a] =
          ((if reader.carried = [] then []
              else [Utf8.replacement]) ++ ['\n'] ++ ['\n'],
            []) := by
      rw [Utf8.decode_lineFeed, Utf8.decode_lineFeed]
      simp [Utf8.decode]
    unfold feed
    rw [hText]
    dsimp only
    rw [feedText_append,
      feedText_blank_line (line_feedText_lineFeed _ _)]
    rfl
  refine ⟨hNew reader, rfl, ?_⟩
  intro g s
  have hSplit :
      g ++ 0x0a :: 0x0a :: s = (g ++ [0x0a, 0x0a]) ++ s := by
    simp
  have hBlank : (reader.feed (g ++ [0x0a, 0x0a])).1 = new := by
    rw [feed_append]
    exact hNew (reader.feed g).1
  rw [hSplit, feed_append, hBlank]

end FrameReader

end EventFeed
