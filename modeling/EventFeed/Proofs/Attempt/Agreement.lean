import EventFeed.Proofs.Attempt.Response
import EventFeed.Proofs.Client.Core
import EventFeed.Proofs.Frame.Common

/-
  This file proves that both transports deliver the same
  events.

  A server sends events that both readers find alike, and
  ends the body.  Then either kind of attempt makes the same
  reports in the same order: it opened, here are the events,
  it is over.  Whatever stands between the reports makes no
  difference while the attempt is live, nor does it matter
  when they are made, so both clients keep the same core,
  through this attempt and all that follow it.

  Key definitions include:
    * `Course.reports`
    * `Attempt.recital`
    * `Http.Reply.Sends`

  Key results include:
    * `Attempt.reports_native`
    * `Attempt.reports_authenticated`
    * `Turn.Underway.akin_pursue`
    * `Turn.Akin.voyage`
    * `Turn.transports_agree`
-/

------------------------------------------------------------
-- Reports of a Course
------------------------------------------------------------

namespace EventFeed

/- What a course reports, in order. -/
def Course.reports : Course → List Report
  | [] => []
  | .report r :: rest => r :: reports rest
  | .hold :: _ => []
  | _ :: rest => reports rest

namespace Course

/- What a course tells depends on its reports alone. -/
theorem told_reports
    (opened : Bool)
    (course : Course) :
    Course.told opened (course.reports.map Move.report) =
      course.told opened := by
  induction course generalizing opened with
  | nil => rfl
  | cons m rest ih =>
      cases m with
      | report r =>
          cases r <;>
            simp only [reports, List.map_cons, told, ih]
      | hold => rfl
      | _ => exact ih opened

/- Pauses report nothing. -/
theorem reports_unpaused (course : Course) :
    course.unpaused.reports = course.reports := by
  induction course with
  | nil => rfl
  | cons m rest ih =>
      unfold unpaused at ih ⊢
      cases m with
      | report r =>
          rw [List.filter_cons_of_pos rfl, reports, reports, ih]
      | hold => rfl
      | wait span =>
          rw [List.filter_cons_of_neg (by simp [Move.isPause])]
          exact ih
      | _ =>
          rw [List.filter_cons_of_pos rfl]
          exact ih

theorem reports_events_append
    (events : List Event)
    (rest : Course) :
    reports
        (events.map (fun e => Move.report (.event e)) ++ rest) =
      events.map Report.event ++ reports rest := by
  induction events with
  | nil => rfl
  | cons e events ih =>
      rw [List.map_cons, List.cons_append, reports, ih]
      rfl

end Course

end EventFeed

------------------------------------------------------------
-- Events Sent
------------------------------------------------------------

namespace EventFeed

/- A reply that sends events and ends, in any chunks. -/
structure Http.Reply.Sends
    (r : Reply)
    (events : List Event) : Prop where
  status : r.status = 200
  type : Stream.isStreamType (r.contentType.getD "") = true
  body :
    r.chunks.flatten =
      Utf8.encodeText (events.flatMap Event.plainWire)
  ending : r.ending = .complete

namespace Attempt

/- What an attempt reports to which events are sent. -/
def recital (events : List Event) : List Report :=
  .opened :: (events.map Report.event ++ [.closed])

/- And what it tells. -/
def recited (events : List Event) : Told :=
  ⟨.opened :: events.map Event.callback, true, true⟩

variable {r : Http.Reply}
variable {events : List Event}

theorem told_recital (events : List Event) :
    Course.told false ((recital events).map Move.report) =
      recited events := by
  have hEvents :
      (events.map Report.event).map Move.report =
        events.map fun e => Move.report (.event e) :=
    List.map_map
  rw [recital, List.map_cons, List.map_append, hEvents,
    Course.told, told_events_append]
  simp [Told.after, recited, Course.told]

theorem told_of_recital
    {course : Course}
    (hReports : course.reports = recital events) :
    course.told false = recited events := by
  rw [← Course.told_reports, hReports, told_recital]

/- The signals of a source lead to one report each. -/
theorem reports_frames
    (events : List Event) :
    Course.reports
        (Signal.course
          (events.map Signal.frame ++ [Signal.closed])) =
      events.map Report.event ++ [.closed] := by
  induction events with
  | nil => rfl
  | cons e events ih =>
      rw [List.map_cons, List.cons_append, Signal.course]
      simp only [Signal.checkpoint, Course.reports, ih]
      rfl

/- Without a credential the grammar finds the events. -/
theorem reports_native
    (url : Url)
    (hCommon : ∀ e ∈ events, e.IsCommon)
    (hSends : r.Sends events) :
    (native url (.answered r)).reports = recital events := by
  have hRead :
      Utf8.strict [] r.chunks.flatten =
        (events.flatMap Event.plainWire, []) := by
    rw [hSends.body, Utf8.strict_encodeText]
  have hSignals :
      Stream.signals url (.answered r) =
        .opened ::
          (events.map Signal.frame ++ [Signal.closed]) := by
    simp only [Stream.signals, Stream.replied, hSends.status,
      hSends.type, hSends.ending, hRead,
      Stream.events_plainWire hCommon, Stream.farewell]
    rfl
  unfold native
  rw [hSignals, Signal.course]
  simp only [Signal.checkpoint, Course.reports, reports_frames]
  rfl

theorem reports_body
    (reader : FrameReader)
    (chunks : List (List UInt8)) :
    (body reader .complete chunks).reports =
      (reader.feedAll chunks).2.map Report.event ++
        [.closed] := by
  induction chunks generalizing reader with
  | nil =>
      unfold body ending
      cases reader.isIdle <;> rfl
  | cons chunk rest ih =>
      unfold body FrameReader.feedAll
      rw [Course.reports_events_append]
      simp [Course.reports, ih]

/- With one they are found in frames. -/
theorem reports_authenticated
    (url : Url)
    {credential : String}
    (hHeader : Http.isHeaderText credential = true)
    (hCommon : ∀ e ∈ events, e.IsCommon)
    (hSends : r.Sends events) :
    (authenticated url credential (.answered r)).reports =
      recital events := by
  have hSuccess : Http.Status.isSuccess r.status = true := by
    rw [hSends.status]
    decide
  have hRead :=
    FrameReader.feedAll_plainWire hCommon hSends.body
  unfold authenticated
  rw [if_pos hHeader]
  simp only [replied, if_pos hSuccess, Course.reports,
    hSends.ending, reports_body, hRead]
  rfl

end Attempt

end EventFeed

------------------------------------------------------------
-- Attempts of Two Clients
------------------------------------------------------------

namespace EventFeed

namespace Turn

variable {t t' : Turn}
variable {attempt : Nat}
variable {generation : UInt64}
variable {opened : Bool}

namespace Akin

theorem serveAll
    (hAkin : t.Akin t')
    (signals : List Task) :
    (t.serveAll signals).Akin (t'.serveAll signals) := by
  induction signals generalizing t t' with
  | nil => exact hAkin
  | cons signal signals ih => exact ih (hAkin.serve signal)

theorem beginAttempt
    (hAkin : t.Akin t') :
    t.beginAttempt.Akin t'.beginAttempt :=
  hAkin.move .begin

/- What is remarked on is no part of the core. -/
theorem seeing_remark (t : Turn) (r : Remark) :
    Akin { t with seen := .remark r :: t.seen } t :=
  rfl

/- Nor is the time. -/
theorem later (t : Turn) (span : Span) :
    Akin { t with now := t.now + span } t :=
  rfl

end Akin

/- An attempt that reports nothing leaves the core alone. -/
theorem akin_pursue_of_reports_eq_nil
    (t : Turn)
    {course : Course}
    (hReports : course.reports = []) :
    (t.pursue attempt generation course).Akin t := by
  induction course generalizing t with
  | nil => exact .refl t
  | cons m rest ih =>
      cases m with
      | report r => contradiction
      | remark r =>
          exact (ih _ hReports).trans (.seeing_remark t r)
      | check r =>
          unfold pursue
          split
          · exact ih t hReports
          · cases r with
            | none => exact .refl t
            | some r => exact .seeing_remark t r
      | wait span => exact (ih _ hReports).trans (.later t span)
      | hold => exact .refl t

/- The signals that reports of an attempt are. -/
def signals (attempt : Nat) (reports : List Report) : List Task :=
  reports.map fun r => .act (.report attempt r)

/-
  An attempt that reports its end once, and last, is as good as
  its reports: it is live until then, so no check stops it.
-/
theorem Underway.akin_pursue
    (hUnderway : t.Underway attempt generation opened)
    {course : Course}
    {before : List Report}
    (hReports : course.reports = before ++ [.closed])
    (hBefore : .closed ∉ before) :
    (t.pursue attempt generation course).Akin
      (t.serveAll (signals attempt course.reports)) := by
  induction course generalizing t opened before with
  | nil => simp [Course.reports] at hReports
  | cons m rest ih =>
      cases m with
      | report r =>
          unfold Turn.pursue
          by_cases hEnd : r = .closed
          · have hOver : Course.reports rest = [] := by
              cases before with
              | nil => exact (List.cons.inj hReports).2
              | cons first others =>
                  rw [hEnd] at hReports
                  have hFirst : first = .closed :=
                    (List.cons.inj hReports).1.symm
                  simp [hFirst] at hBefore
            rw [Course.reports, hOver]
            exact akin_pursue_of_reports_eq_nil _ hOver
          · rcases hUnderway.report r hEnd with
              ⟨opened', _, _, hNext, _⟩
            cases before with
            | nil => exact absurd (List.cons.inj hReports).1 hEnd
            | cons first others =>
                rw [List.mem_cons, not_or] at hBefore
                exact
                  ih hNext (List.cons.inj hReports).2 hBefore.2
      | remark r =>
          have hNext :
              Underway { t with seen := .remark r :: t.seen }
                attempt generation opened :=
            ⟨hUnderway.alive, hUnderway.handlers,
              hUnderway.begun, hUnderway.live, hUnderway.phase,
              hUnderway.fresh⟩
          exact
            (ih hNext hReports hBefore).trans
              ((Akin.seeing_remark t r).serveAll _)
      | check r =>
          unfold Turn.pursue
          rw [hUnderway.isLive]
          exact ih hUnderway hReports hBefore
      | wait span =>
          have hNext :
              Underway { t with now := t.now + span } attempt
                generation opened :=
            ⟨hUnderway.alive, hUnderway.handlers,
              hUnderway.begun, hUnderway.live, hUnderway.phase,
              hUnderway.fresh⟩
          exact
            (ih hNext hReports hBefore).trans
              ((Akin.later t span).serveAll _)
      | hold => simp [Course.reports] at hReports

/- One attempt of a client that connects, from its beginning. -/
def attempted (t : Turn) (course : Course) : Turn :=
  t.beginAttempt.pursue t.begun.size t.client.link.generation
    course

variable {course course' : Course}
variable {events : List Event}

/- Such an attempt is as good as what it has to report. -/
theorem Docked.akin_attempted
    (hDocked : t.Docked)
    (hReports : course.reports = Attempt.recital events) :
    (t.attempted course).Akin
      (t.beginAttempt.serveAll
        (signals t.begun.size (Attempt.recital events))) := by
  have hSplit :
      course.reports =
        (.opened :: events.map Report.event) ++ [.closed] :=
    hReports
  rw [← hReports]
  apply hDocked.underway.akin_pursue hSplit
  simp

/- So two clients that are akin still are after theirs. -/
theorem Akin.attempted
    (hAkin : t.Akin t')
    (hDocked : t.Docked)
    (hDocked' : t'.Docked)
    (hReports : course.reports = Attempt.recital events)
    (hReports' : course'.reports = Attempt.recital events) :
    (t.attempted course).Akin (t'.attempted course') := by
  have hBegun : t.begun = t'.begun :=
    (congrArg Turn.begun hAkin :)
  have hServed :=
    hAkin.beginAttempt.serveAll
      (signals t.begun.size (Attempt.recital events))
  apply (hDocked.akin_attempted hReports).trans
  apply hServed.trans
  rw [hBegun]
  exact (hDocked'.akin_attempted hReports').symm

/- After an attempt that ends, the next one is made ready. -/
theorem Docked.next
    (hDocked : t.Docked)
    (hReports : course.reports = Attempt.recital events)
    (hPhase :
      (t.attempted course).client.link.phase = .reconnecting) :
    ((t.attempted course).serve
        (.fireTimer
          (t.attempted course).client.link.generation)).Docked := by
  have hConcluded : Concluded _ _ (t.attempted course) :=
    hDocked.underway.pursue course
  have hTold := Attempt.told_of_recital hReports
  have hHeeds :=
    hConcluded.ended (by rw [hTold]; rfl)
  cases hAnswer :
      t.beginAttempt.client.config.answer
        ((course.told false).attempts
          t.beginAttempt.client.link.attempts) with
  | reconnecting next =>
      rw [hAnswer] at hHeeds
      exact
        (docked_of_heeds hConcluded.alive hHeeds
          (served_fireTimer hConcluded.handlers _)).1
  | _ =>
      rw [hAnswer] at hHeeds
      have hClosed :
          (t.attempted course).client.link.phase = .closed :=
        hHeeds
      rw [hClosed] at hPhase
      contradiction

theorem voyage_cons (t : Turn) (rest : List Course) :
    t.voyage (course :: rest) =
      if (t.attempted course).client.link.phase =
          .reconnecting then
        ((t.attempted course).serve
            (.fireTimer
              (t.attempted course).client.link.generation)).voyage
          rest
      else
        t.attempted course :=
  rfl

/-
  Two clients that are akin remain so, attempt after attempt,
  as long as the same events are sent to both.
-/
theorem Akin.voyage
    (hAkin : t.Akin t')
    (hDocked : t.Docked)
    (hDocked' : t'.Docked)
    {courses courses' : List Course}
    {batches : List (List Event)}
    (hReports :
      courses.map Course.reports =
        batches.map Attempt.recital)
    (hReports' :
      courses'.map Course.reports =
        batches.map Attempt.recital) :
    (t.voyage courses).Akin (t'.voyage courses') := by
  induction batches generalizing t t' courses courses' with
  | nil =>
      rw [List.map_nil, List.map_eq_nil_iff] at hReports hReports'
      rw [hReports, hReports']
      exact hAkin
  | cons events batches ih =>
      rw [List.map_cons, List.map_eq_cons_iff]
        at hReports hReports'
      rcases hReports with ⟨course, rest, rfl, hFirst, hRest⟩
      rcases hReports' with
        ⟨course', rest', rfl, hFirst', hRest'⟩
      have hOne :=
        hAkin.attempted hDocked hDocked' hFirst hFirst'
      have hPhase :
          (t.attempted course).client.link.phase =
            (t'.attempted course').client.link.phase :=
        (congrArg (fun t => t.client.link.phase) hOne :)
      have hGeneration :
          (t.attempted course).client.link.generation =
            (t'.attempted course').client.link.generation :=
        (congrArg (fun t => t.client.link.generation) hOne :)
      rw [voyage_cons, voyage_cons]
      by_cases hWaits :
          (t.attempted course).client.link.phase = .reconnecting
      · have hWaits' := hPhase.symm.trans hWaits
        have hNext := hDocked.next hFirst hWaits
        have hNext' := hDocked'.next hFirst' hWaits'
        have hServed :=
          hOne.serve
            (.fireTimer
              (t.attempted course).client.link.generation)
        rw [if_pos hWaits, if_pos hWaits']
        rw [← hGeneration] at hNext' ⊢
        exact ih hServed hNext hNext' hRest hRest'
      · have hWaits' :
            (t'.attempted course').client.link.phase ≠
              .reconnecting := by
          rw [← hPhase]
          exact hWaits
        rw [if_neg hWaits, if_neg hWaits']
        exact hOne

end Turn

end EventFeed

------------------------------------------------------------
-- Both Transports
------------------------------------------------------------

namespace EventFeed

/- The configuration with a credential. -/
def Config.carrying
    (config : Config)
    (credential : String) : Config :=
  { config with credential := some credential }

/- A credential has no say in what follows an attempt. -/
theorem Config.saga_carrying
    (config : Config)
    (credential : String)
    (attempts : UInt32)
    (told : List Told) :
    (config.carrying credential).saga attempts told =
      config.saga attempts told := by
  induction told generalizing attempts with
  | nil => rfl
  | cons first rest ih =>
      unfold saga
      simp only [ih]
      rfl

namespace Attempt

variable {config : Config}

/-
  An attempt with a configuration takes this course, but for
  its pauses, when events are sent to it.
-/
def Receives
    (config : Config)
    (course : Course)
    (events : List Event) : Prop :=
  ∃ r : Http.Reply,
    r.Sends events ∧
      course.unpaused = Attempt.course config (.answered r)

/- It reports just that, whatever carries it. -/
theorem Receives.reports_eq
    {credential : Option String}
    (hHeader : ∀ c ∈ credential, Http.isHeaderText c = true)
    {course : Course}
    {events : List Event}
    (hCommon : ∀ e ∈ events, e.IsCommon)
    (hReceives :
      Receives { config with credential := credential } course
        events) :
    course.reports = recital events := by
  rcases hReceives with ⟨r, hSends, hCourse⟩
  rw [← Course.reports_unpaused, hCourse]
  cases credential with
  | none => exact reports_native config.url hCommon hSends
  | some c =>
      exact
        reports_authenticated config.url (hHeader c rfl) hCommon
          hSends

theorem map_reports_eq
    {credential : Option String}
    (hHeader : ∀ c ∈ credential, Http.isHeaderText c = true)
    {batches : List (List Event)}
    (hCommon : ∀ events ∈ batches, ∀ e ∈ events, e.IsCommon)
    {courses : List Course}
    (hReceives :
      List.Forall₂
        (Receives { config with credential := credential })
        courses batches) :
    courses.map Course.reports = batches.map recital := by
  induction hReceives with
  | nil => rfl
  | cons hFirst _ ih =>
      rw [List.forall_mem_cons] at hCommon
      rw [List.map_cons, List.map_cons,
        hFirst.reports_eq hHeader hCommon.1, ih hCommon.2]

/- What the attempts tell one after the other. -/
theorem map_told_eq
    {courses : List Course}
    {batches : List (List Event)}
    (hReports :
      courses.map Course.reports = batches.map recital) :
    courses.map (Course.told false) =
      batches.map recited := by
  have hTold :
      Course.told false =
        fun course : Course =>
          Course.told false (course.reports.map Move.report) :=
    funext fun course => (Course.told_reports false course).symm
  have hMap :=
    congrArg
      (List.map fun reports : List Report =>
        Course.told false (reports.map Move.report))
      hReports
  rw [List.map_map, List.map_map] at hMap
  rw [hTold]
  exact hMap.trans (List.map_congr_left fun _ _ => told_recital _)

end Attempt

namespace Turn

/- What two clients have in common that nobody tells apart. -/
structure Agrees (t t' : Turn) : Prop where
  hearings : t.hearings = t'.hearings
  tally : t.client.tally = t'.client.tally
  phase : t.client.link.phase = t'.client.link.phase
  published : t.client.link.published = t'.client.link.published
  attempts : t.client.link.attempts = t'.client.link.attempts
  handlers : t.client.handlers = t'.client.handlers

theorem hearings_core (t : Turn) : t.core.hearings = t.hearings := by
  unfold hearings core
  rw [← List.filterMap_reverse, List.filterMap_filterMap]
  congr 1
  funext o
  cases o <;> rfl

theorem Akin.agrees
    {t t' : Turn}
    (hAkin : t.Akin t') :
    t.Agrees t' where
  hearings := by
    rw [← hearings_core t, hAkin, hearings_core]
  tally := (congrArg (fun t => t.client.tally) hAkin :)
  phase := (congrArg (fun t => t.client.link.phase) hAkin :)
  published :=
    (congrArg (fun t => t.client.link.published) hAkin :)
  attempts :=
    (congrArg (fun t => t.client.link.attempts) hAkin :)
  handlers := (congrArg (fun t => t.client.handlers) hAkin :)

/-
  Two clients are the same but that one has a credential, fit
  for a header, and the same has happened to both.  Now each
  of their attempts is sent the same events and then the end
  of the body, cut into chunks and spread over time in any
  way.  Then the same calls are made and heard with the same
  counters: for each attempt that it opened, the events in
  order and no error, and the one answer to its end.
-/
theorem transports_agree
    (config : Config)
    {credential : String}
    (hHeader : Http.isHeaderText credential = true)
    (moves : List Move)
    {t t' : Turn}
    (hReached :
      t = (fresh (config.carrying credential)).follow moves)
    (hReached' : t' = (fresh config.bare).follow moves)
    (hAlive : t.alive = true)
    (hCalm : t.client.handlers.Calm)
    (hPhase : t.client.link.phase = .connecting)
    {batches : List (List Event)}
    (hCommon : ∀ events ∈ batches, ∀ e ∈ events, e.IsCommon)
    {courses courses' : List Course}
    (hReceives :
      List.Forall₂
        (Attempt.Receives (config.carrying credential)) courses
        batches)
    (hReceives' :
      List.Forall₂ (Attempt.Receives config.bare) courses'
        batches) :
    (t.voyage courses).Agrees (t'.voyage courses') ∧
      (t.voyage courses).callbacks =
        t.callbacks ++
          config.saga t.client.link.attempts
            (batches.map Attempt.recited) := by
  have hReports :=
    Attempt.map_reports_eq (by simpa using hHeader) hCommon
      hReceives
  have hReports' :=
    Attempt.map_reports_eq (by simp) hCommon hReceives'
  have hStart :
      Akin (fresh (config.carrying credential))
        (fresh config.bare) := rfl
  have hAkin : t.Akin t' := by
    rw [hReached, hReached']
    exact hStart.follow moves
  have hAlive' : t'.alive = true :=
    (congrArg Turn.alive hAkin).symm.trans hAlive
  have hCalm' : t'.client.handlers.Calm := by
    rw [← hAkin.agrees.handlers]
    exact hCalm
  have hPhase' : t'.client.link.phase = .connecting :=
    hAkin.agrees.phase.symm.trans hPhase
  have hConfig : t.client.config = config.carrying credential :=
    (governed_of_reached hReached).2.configured
  have hDocked := docked_of_reached hReached hAlive hCalm hPhase
  have hDocked' :=
    docked_of_reached hReached' hAlive' hCalm' hPhase'
  refine
    ⟨(hAkin.voyage hDocked hDocked' hReports hReports').agrees,
      ?_⟩
  rw [hDocked.voyage, hConfig, Config.saga_carrying,
    Attempt.map_told_eq hReports]

/- A configuration with which one failure is borne. -/
def patient : Config :=
  { (default : Config) with
    autoReconnect := true
    maxAttempts := some 1 }

/- A reply with these chunks for its body. -/
def streamed (chunks : List (List UInt8)) : Http.Reply where
  status := 200
  contentType := some Http.streamType
  chunks := chunks
  ending := .complete

theorem sends_streamed
    {events : List Event}
    {chunks : List (List UInt8)}
    (hBody :
      chunks.flatten =
        Utf8.encodeText (events.flatMap Event.plainWire)) :
    (streamed chunks).Sends events where
  status := rfl
  type := by
    show Stream.isStreamType Http.streamType = true
    decide
  body := hBody
  ending := rfl

/- A ping, and a message of two lines. -/
def noted : List Event :=
  [⟨"ping", "", some "1"⟩, ⟨"note", "{}\né", some "2"⟩]

theorem isCommon_noted : ∀ e ∈ noted, e.IsCommon := by
  simp only [noted, List.forall_mem_cons]
  refine ⟨?_, ?_, by simp⟩
  · exact
      ⟨by decide, by decide, by decide, "1", rfl, by decide,
        by decide, by decide⟩
  · exact
      ⟨by decide, by decide, by decide, "2", rfl, by decide,
        by decide, by decide⟩

/-
  The handler of pings fails.  One client gets the events byte
  by byte, the other one gets them at once, after a pause; to
  the attempts that follow nothing is sent.
-/
theorem transports_agree_byte_by_byte :
    ∃ (t t' : Turn) (courses courses' : List Course),
      t =
          (fresh (patient.carrying "c")).follow
            [.act (.register .ping [[.panic]]), .step,
              .act .connect, .step] ∧
        t' =
          (fresh patient.bare).follow
            [.act (.register .ping [[.panic]]), .step,
              .act .connect, .step] ∧
        (t.voyage courses).Agrees (t'.voyage courses') ∧
        (t.voyage courses).callbacks.map Callback.slot =
          [.opened, .ping, .message, .reconnecting,
            .reconnected, .opened, .reconnecting,
            .reconnected] := by
  have hEmpty : (Registry.empty : Registry Handler).Calm := by
    intro slot handler hGet
    cases slot <;> contradiction
  have hCalm :
      ((Registry.empty : Registry Handler).register .ping
        [[.panic]]).Calm :=
    hEmpty.register .ping rfl
  have hCommon :
      ∀ events ∈ [noted, []], ∀ e ∈ events, e.IsCommon := by
    simpa using isCommon_noted
  have hBytes :
      ((Utf8.encodeText (noted.flatMap Event.plainWire)).map
        fun b => [b]).flatten =
          Utf8.encodeText (noted.flatMap Event.plainWire) := by
    rw [← List.flatMap_def, List.flatMap_singleton']
  have hWhole :
      [Utf8.encodeText (noted.flatMap Event.plainWire)].flatten =
        Utf8.encodeText (noted.flatMap Event.plainWire) :=
    List.append_nil _
  have hHeader : Http.isHeaderText "c" = true := by decide
  have hFirst :
      Attempt.Receives (patient.carrying "c")
        (Attempt.course (patient.carrying "c")
          (.answered
            (streamed
              ((Utf8.encodeText
                (noted.flatMap Event.plainWire)).map
                fun b => [b]))))
        noted :=
    ⟨_, sends_streamed hBytes, by decide +kernel⟩
  have hFirst' :
      Attempt.Receives patient.bare
        (.wait 5 ::
          Attempt.course patient.bare
            (.answered
              (streamed
                [Utf8.encodeText
                  (noted.flatMap Event.plainWire)])))
        noted :=
    ⟨_, sends_streamed hWhole, by decide +kernel⟩
  have hRest :
      Attempt.Receives (patient.carrying "c")
        (Attempt.course (patient.carrying "c")
          (.answered (streamed [])))
        [] :=
    ⟨_, sends_streamed rfl, by decide +kernel⟩
  have hRest' :
      Attempt.Receives patient.bare
        (Attempt.course patient.bare (.answered (streamed [])))
        [] :=
    ⟨_, sends_streamed rfl, by decide +kernel⟩
  have hAgree :=
    transports_agree patient hHeader
      [.act (.register .ping [[.panic]]), .step, .act .connect,
        .step]
      rfl rfl rfl hCalm rfl hCommon
      (.cons hFirst (.cons hRest .nil))
      (.cons hFirst' (.cons hRest' .nil))
  refine ⟨_, _, _, _, rfl, rfl, hAgree.1, ?_⟩
  rw [hAgree.2]
  decide +kernel

end Turn

end EventFeed
