import EventFeed.Event
import EventFeed.Text.Blank
import EventFeed.Text.Utf8

/-
  This file defines the frames of a feed and their
  incremental reading.

  A frame is a run of lines ended by an empty line.  A line
  may set the type, add a line of data or set the id; every
  other line says nothing.  A frame with a line of data is an
  event, a frame without one is dropped.

  Bytes arrive in chunks cut anywhere.  The reader keeps what
  is unfinished at three levels: the bytes of a character,
  the characters of a line and the fields of a frame.

  Key definitions include:
    * `Field.ofLine`
    * `Frame.add`
    * `Frame.event?`
    * `FrameReader.feedText`
    * `FrameReader.feed`
    * `FrameReader.isIdle`
-/

------------------------------------------------------------
-- Lines
------------------------------------------------------------

namespace EventFeed

/- A line, without its line feed. -/
abbrev Line := List Char

namespace Line

/-
  Cut a text at its line feeds: the complete lines, and the
  rest that no line feed has ended yet.
-/
def split : List Char → List Line × List Char
  | [] => ([], [])
  | c :: cs =>
      let below := split cs
      if c = '\n' then
        ([] :: below.1, below.2)
      else
        match below.1 with
        | [] => ([], c :: below.2)
        | first :: others =>
            ((c :: first) :: others, below.2)

/- Drop one carriage return from the end of a line. -/
def dropReturn : Line → Line
  | [] => []
  | ['\r'] => []
  | c :: cs => c :: dropReturn cs

end Line

------------------------------------------------------------
-- Fields
------------------------------------------------------------

/- What one line of a frame says. -/
inductive Field
  | type (value : String)
  | data (value : String)
  | id (value : String)
  | other
deriving DecidableEq, Repr

namespace Field

/-
  The value that a line gives to a field: the line starts
  with the name and a colon, and the blanks that follow the
  colon are dropped.
-/
def value? (name : List Char) (line : Line) : Option String :=
  match name, line with
  | [], ':' :: rest =>
      some (String.ofList (Text.trimStart rest))
  | n :: ns, c :: cs =>
      if n = c then value? ns cs else none
  | _, _ => none

/- The field set by a line that is not empty. -/
def ofLine (line : Line) : Field :=
  match value? "event".toList line with
  | some v => .type v
  | none =>
      match value? "data".toList line with
      | some v => .data v
      | none =>
          match value? "id".toList line with
          | some v => .id v
          | none => .other

end Field

------------------------------------------------------------
-- Frames
------------------------------------------------------------

/- The fields of a frame that has not ended. -/
structure Frame where
  type? : Option String
  data : List String
  id? : Option String
deriving DecidableEq, Inhabited, Repr

namespace Frame

/- A frame with no line yet. -/
def empty : Frame :=
  ⟨none, [], none⟩

/- Take in a field: later types and ids win, data adds up. -/
def add (frame : Frame) : Field → Frame
  | .type v => { frame with type? := some v }
  | .data v => { frame with data := frame.data ++ [v] }
  | .id v => { frame with id? := some v }
  | .other => frame

/- The event of a finished frame, if it has data. -/
def event? (frame : Frame) : Option Event :=
  match frame.data with
  | [] => none
  | lines =>
      some
        { type := frame.type?.getD Event.messageType
          data := "\n".intercalate lines
          id := frame.id? }

/-
  Take in one line: an empty line ends the frame, any other
  line is a field of it.
-/
def addLine
    (frame : Frame)
    (line : Line) : Frame × Option Event :=
  match Line.dropReturn line with
  | [] => (empty, frame.event?)
  | text => (frame.add (Field.ofLine text), none)

/- Take in lines, collecting the events they complete. -/
def addLines
    (frame : Frame) :
    List Line → Frame × List Event
  | [] => (frame, [])
  | line :: lines =>
      let one := frame.addLine line
      let more := addLines one.1 lines
      (more.1, one.2.toList ++ more.2)

end Frame

------------------------------------------------------------
-- Incremental Reading
------------------------------------------------------------

/- What a reader keeps between two chunks. -/
structure FrameReader where
  carried : List UInt8
  line : List Char
  frame : Frame
deriving DecidableEq, Inhabited, Repr

namespace FrameReader

/- A reader that has read nothing. -/
def new : FrameReader :=
  ⟨[], [], Frame.empty⟩

/- Read decoded text; carried bytes stay where they are. -/
def feedText
    (reader : FrameReader)
    (text : List Char) : FrameReader × List Event :=
  let cut := Line.split (reader.line ++ text)
  let read := reader.frame.addLines cut.1
  ({ reader with line := cut.2, frame := read.1 }, read.2)

/- Read a chunk of bytes. -/
def feed
    (reader : FrameReader)
    (chunk : List UInt8) : FrameReader × List Event :=
  let decoded := Utf8.decode reader.carried chunk
  { reader with carried := decoded.2 }.feedText decoded.1

/- Read chunks one after the other. -/
def feedAll
    (reader : FrameReader) :
    List (List UInt8) → FrameReader × List Event
  | [] => (reader, [])
  | chunk :: chunks =>
      let one := reader.feed chunk
      let more := feedAll one.1 chunks
      (more.1, one.2 ++ more.2)

/- The text that no line feed has ended yet. -/
def buffered (reader : FrameReader) : String :=
  String.ofList reader.line

/- Whether nothing unfinished is kept. -/
def isIdle (reader : FrameReader) : Bool :=
  reader.line.isEmpty && reader.carried.isEmpty &&
    reader.frame.data.isEmpty &&
    reader.frame.type?.isNone && reader.frame.id?.isNone

end FrameReader

end EventFeed
