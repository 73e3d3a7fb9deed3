import EventFeed.Attempt.Source
import EventFeed.Http.Exchange
import EventFeed.Http.Status
import EventFeed.Text.Utf8

/-
  This file defines the native source that reads a feed from
  a server, by the grammar of event streams.

  A line ends with a line feed, a carriage return or both;
  one space after the colon of a field is dropped, a field
  without a colon is empty, and the last id stays in force
  for the events that follow.

  Key definitions include:
    * `Stream.lines`
    * `Stream.Field.ofLine`
    * `Stream.Block`
    * `Stream.events`
    * `Stream.signals`
    * `Attempt.native`
-/

------------------------------------------------------------
-- Lines
------------------------------------------------------------

namespace EventFeed

namespace Stream

/-
  The complete lines of a text, after the characters of a
  line so far (last first).  A carriage return at the very
  end may be half of a line end, so it ends no line.
-/
def linesFrom (line : List Char) : List Char → List (List Char)
  | '\r' :: '\n' :: rest => line.reverse :: linesFrom [] rest
  | ['\r'] => []
  | '\r' :: rest => line.reverse :: linesFrom [] rest
  | '\n' :: rest => line.reverse :: linesFrom [] rest
  | c :: rest => linesFrom (c :: line) rest
  | [] => []

/- A text without the byte order mark it may start with. -/
def dropMark : List Char → List Char
  | '\ufeff' :: rest => rest
  | cs => cs

/- The complete lines of a text. -/
def lines (text : List Char) : List (List Char) :=
  linesFrom [] (dropMark text)

------------------------------------------------------------
-- Fields
------------------------------------------------------------

/- What one line of a stream says. -/
inductive Field
  | type (value : String)
  | data (value : String)
  | id (value : String)
  | other
deriving DecidableEq, Inhabited, Repr

namespace Field

/- The value after a colon, less one space. -/
def value : List Char → String
  | ':' :: ' ' :: rest => String.ofList rest
  | ':' :: rest => String.ofList rest
  | _ => ""

/- The field that a line sets; an id must not hold a NUL. -/
def ofLine (line : List Char) : Field :=
  let name := line.takeWhile (· != ':')
  let v := value (line.dropWhile (· != ':'))
  if name = "event".toList then .type v
  else if name = "data".toList then .data v
  else if name = "id".toList then
    if v.toList.contains '\x00' then .other else .id v
  else .other

end Field

------------------------------------------------------------
-- Events
------------------------------------------------------------

/- An event in the making, and the id in force. -/
structure Block where
  type : String
  data : List String
  id : String
deriving DecidableEq, Inhabited, Repr

namespace Block

/- Nothing yet, with the id that is in force. -/
def withId (id : String) : Block :=
  ⟨"", [], id⟩

/- Take a field. -/
def add (b : Block) : Field → Block
  | .type v => { b with type := v }
  | .data v => { b with data := b.data ++ [v] }
  | .id v => { b with id := v }
  | .other => b

/- The event of a block that ended, if it has data. -/
def event? (b : Block) : Option Event :=
  match b.data with
  | [] => none
  | data =>
      some
        { type :=
            if b.type = "" then Event.messageType else b.type
          data := "\n".intercalate data
          id := if b.id = "" then none else some b.id }

/- The events that lines complete. -/
def events (b : Block) : List (List Char) → List Event
  | [] => []
  | [] :: rest =>
      b.event?.toList ++ events (withId b.id) rest
  | line :: rest => events (b.add (Field.ofLine line)) rest

end Block

/- The events of a text. -/
def events (text : List Char) : List Event :=
  (Block.withId "").events (lines text)

------------------------------------------------------------
-- Signals
------------------------------------------------------------

/- The character in lower case, if it is an ASCII letter. -/
def lowerAscii (c : Char) : Char :=
  if 'A' ≤ c ∧ c ≤ 'Z' then Char.ofNat (c.toNat + 32) else c

/- Whether a content type says that the body is a stream. -/
def isStreamType (value : String) : Bool :=
  (value.toList.takeWhile (· != ';')).map lowerAscii =
    Http.streamType.toList

/- A byte of a header between quotes. -/
def headerByte (b : UInt8) : List Char :=
  if b = 0x22 then ['\\', '"']
  else if b = 9 ∨ (0x20 ≤ b ∧ b < 0x7f) then
    [Char.ofNat b.toNat]
  else
    '\\' :: 'x' :: Text.lowerHex b.toNat

/- The value of a header between quotes. -/
def headerQuoted (value : String) : String :=
  "\"" ++
    String.ofList
      ((Utf8.encodeText value.toList).flatMap headerByte) ++
    "\""

/- How the source takes leave; `left` spells no text. -/
def farewell (left : List UInt8) : Http.Ending → Signal
  | .complete =>
      if left.isEmpty then .closed
      else .error (Utf8.fault left) true
  | .broken => .error Http.bodyError true
  | .silent => .hold

/- The signals of a source whose request was answered. -/
def replied (r : Http.Reply) : List Signal :=
  if r.status ≠ 200 then
    [.error
      (FeedError.httpStatus r.status
        (Http.Status.reason r.status)).message true]
  else
    let type := r.contentType.getD ""
    if isStreamType type then
      let read := Utf8.strict [] r.chunks.flatten
      .opened :: (events read.1).map Signal.frame ++
        [farewell read.2 r.ending]
    else
      [.error ("Invalid header value: " ++ headerQuoted type)
        true]

/- The signals of a source that reads from a server. -/
def signals (url : Url) : Http.Outcome → List Signal
  | .answered r => replied r
  | _ => [.error (Http.sendError url) true]

end Stream

------------------------------------------------------------
-- Attempts
------------------------------------------------------------

namespace Attempt

/- The course of an attempt without a credential. -/
def native (url : Url) (o : Http.Outcome) : Course :=
  Signal.course (Stream.signals url o)

end Attempt

end EventFeed
