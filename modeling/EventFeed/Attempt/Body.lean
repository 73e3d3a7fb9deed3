import EventFeed.Attempt.Course
import EventFeed.Frame
import EventFeed.Http.Exchange
import EventFeed.Http.Status

/-
  This file defines the course of an authenticated attempt.

  It sends one request.  A reply that is no success ends the
  attempt; the body of any other is read as frames, chunk by
  chunk.  After each chunk the attempt looks whether it has
  been retired.

  Key definitions include:
    * `Attempt.ending`
    * `Attempt.body`
    * `Attempt.authenticated`
-/

------------------------------------------------------------
-- Bodies
------------------------------------------------------------

namespace EventFeed

namespace Attempt

/- The end of a body, given what its reader still keeps. -/
def ending
    (reader : FrameReader) : Http.Ending → Course
  | .complete =>
      (if reader.isIdle then [] else [.remark .partialFrame]) ++
        [.remark .streamEnded, .report .closed]
  | .broken =>
      .check none :: Course.failure (.transport Http.bodyError)
  | .silent => [.hold]

/- The course through the chunks of a body and its end. -/
def body
    (reader : FrameReader)
    (e : Http.Ending) :
    List (List UInt8) → Course
  | [] => ending reader e
  | chunk :: rest =>
      let read := reader.feed chunk
      (read.2.map fun e => Move.report (.event e)) ++
        .check (some .bodyRetired) :: body read.1 e rest

------------------------------------------------------------
-- Authenticated Attempts
------------------------------------------------------------

/- The course after a reply. -/
def replied (r : Http.Reply) : Course :=
  if Http.Status.isSuccess r.status then
    .report .opened :: body FrameReader.new r.ending r.chunks
  else
    Course.failure
      (.httpStatus r.status (Http.Status.reason r.status))

/- The course of an attempt that carries a credential. -/
def authenticated
    (url : Url)
    (credential : String)
    (o : Http.Outcome) : Course :=
  if Http.isHeaderText credential then
    match o with
    | .answered r => replied r
    | _ => Course.failure (.transport (Http.sendError url))
  else
    Course.failure (.transport Http.buildError)

end Attempt

end EventFeed
