import EventFeed.Attempt.Network
import EventFeed.Proofs.Attempt.Pursuit
import EventFeed.Proofs.Frame.Blocks
import EventFeed.Proofs.Frame.Chunks

/-
  This file says what a client is told of the responses to
  its attempts, from end to end.

  What an authenticated attempt tells is a function of what
  came of its request: of the status of a reply, of the bytes
  of its body as a whole, and of how the body ends.  One
  attempt after the other, each of them tells what it does on
  its own; all that passes from one to the next is how many
  failures there were in a row.

  Key definitions include:
    * `Http.Reply.events`
    * `Http.Outcome.told`
    * `Config.saga`
    * `Turn.voyage`

  Key results include:
    * `Attempt.told_authenticated`
    * `Turn.Docked.voyage`
    * `Turn.told_of_responses`
-/

------------------------------------------------------------
-- Responses
------------------------------------------------------------

namespace EventFeed

namespace Http

/-
  The events of a body: those of the blocks of its text that
  have ended.
-/
def Reply.events (r : Reply) : List Event :=
  (Block.ended
      (Line.complete
        (Utf8.decode [] r.chunks.flatten).1)).filterMap
    Block.event?

/- What a reply tells. -/
def Reply.told (r : Reply) : Told :=
  if Status.isSuccess r.status then
    { calls :=
        .opened :: r.events.map Event.callback ++
          (if r.ending = .broken then
            [.error (.transport bodyError)]
          else
            [])
      opens := true
      ends := r.ending != .silent }
  else
    ⟨[.error (.httpStatus r.status (Status.reason r.status))],
      false, true⟩

/- What the outcome of a request tells. -/
def Outcome.told
    (url : Url)
    (credential : String)
    (o : Outcome) : Told :=
  if isHeaderText credential then
    match o with
    | .answered r => r.told
    | _ => ⟨[.error (.transport (sendError url))], false, true⟩
  else
    ⟨[.error (.transport buildError)], false, true⟩

end Http

/-
  What attempts tell one after the other, each of them made
  when its turn comes.
-/
def Config.saga
    (config : Config)
    (attempts : UInt32) :
    List Told → List Callback
  | [] => []
  | told :: rest =>
      told.callbacks config attempts ++
        if told.ends then
          match config.answer (told.attempts attempts) with
          | .reconnecting next =>
              .reconnected next :: config.saga next rest
          | _ => []
        else
          []

namespace Turn

/-
  Let the attempts of a client be made one after the other,
  as long as it goes on to the next one.
-/
def voyage (t : Turn) : List Course → Turn
  | [] => t
  | course :: rest =>
      let t' :=
        t.beginAttempt.pursue t.begun.size
          t.client.link.generation course
      if t'.client.link.phase = .reconnecting then
        (t'.serve
          (.fireTimer t'.client.link.generation)).voyage rest
      else
        t'

end Turn

end EventFeed

------------------------------------------------------------
-- What an Authenticated Attempt Tells
------------------------------------------------------------

namespace EventFeed

namespace Attempt

/- Events tell their calls, once the connection is open. -/
theorem told_events_append
    (events : List Event)
    (rest : Course) :
    Course.told true
        (events.map (fun e => Move.report (.event e)) ++ rest) =
      (Course.told true rest).after
        (events.map Event.callback) := by
  induction events with
  | nil => rfl
  | cons e events ih =>
      rw [List.map_cons, List.cons_append, Course.told, ih]
      rfl

theorem told_ending
    (reader : FrameReader)
    (e : Http.Ending) :
    Course.told true (ending reader e) =
      ⟨if e = .broken then
          [.error (.transport Http.bodyError)]
        else
          [],
        true, e != .silent⟩ := by
  cases e with
  | complete =>
      unfold ending
      cases reader.isIdle <;> rfl
  | broken => rfl
  | silent => rfl

/- A body tells the calls of its events, in order and once. -/
theorem told_body
    (reader : FrameReader)
    (e : Http.Ending)
    (chunks : List (List UInt8)) :
    Course.told true (body reader e chunks) =
      Told.after
        ((reader.feedAll chunks).2.map Event.callback)
        ⟨if e = .broken then
            [.error (.transport Http.bodyError)]
          else
            [],
          true, e != .silent⟩ := by
  induction chunks generalizing reader with
  | nil => exact told_ending reader e
  | cons chunk rest ih =>
      unfold body FrameReader.feedAll
      rw [told_events_append, Course.told, ih]
      simp [Told.after]

/- Nothing in a body is a pause. -/
theorem isPause_body
    (reader : FrameReader)
    (e : Http.Ending)
    (chunks : List (List UInt8)) :
    ∀ m ∈ body reader e chunks, m.isPause = false := by
  induction chunks generalizing reader with
  | nil =>
      intro m hMember
      cases e with
      | complete =>
          simp only [body, ending, List.mem_append] at hMember
          rcases hMember with hFirst | hLast
          · split at hFirst
            · contradiction
            · rw [List.mem_singleton.mp hFirst]
              rfl
          · simp only [List.mem_cons, List.not_mem_nil,
              or_false] at hLast
            rcases hLast with rfl | rfl <;> rfl
      | broken =>
          simp only [body, ending, Course.failure, List.mem_cons,
            List.not_mem_nil, or_false] at hMember
          rcases hMember with rfl | rfl | rfl <;> rfl
      | silent =>
          rw [List.mem_singleton.mp hMember]
          rfl
  | cons chunk rest ih =>
      intro m hMember
      simp only [body, List.mem_append, List.mem_map,
        List.mem_cons] at hMember
      rcases hMember with ⟨e, _, rfl⟩ | rfl | hRest
      · rfl
      · rfl
      · exact ih _ m hRest

/- Nor is anything in an authenticated attempt. -/
theorem isPause_authenticated
    (url : Url)
    (credential : String)
    (o : Http.Outcome) :
    ∀ m ∈ authenticated url credential o, m.isPause = false := by
  have hFailure :
      ∀ e, ∀ m ∈ Course.failure e, m.isPause = false := by
    intro e m hMember
    simp only [Course.failure, List.mem_cons,
      List.not_mem_nil, or_false] at hMember
    rcases hMember with rfl | rfl <;> rfl
  unfold authenticated
  split
  · split
    · next r =>
        unfold replied
        split
        · intro m hMember
          rcases List.mem_cons.mp hMember with rfl | hRest
          · rfl
          · exact isPause_body _ _ _ m hRest
        · exact hFailure _
    · exact hFailure _
  · exact hFailure _

/- A new reader finds the events of a body in its chunks. -/
theorem feedAll_eq_events (r : Http.Reply) :
    (FrameReader.new.feedAll r.chunks).2 = r.events := by
  rw [FrameReader.feedAll_eq_feed_flatten .new]
  exact
    (FrameReader.feedText_new
      (Utf8.decode [] r.chunks.flatten).1).1

/- What an attempt tells depends on its response alone. -/
theorem told_authenticated
    (url : Url)
    (credential : String)
    (o : Http.Outcome) :
    (authenticated url credential o).told false =
      o.told url credential := by
  unfold authenticated Http.Outcome.told
  cases Http.isHeaderText credential with
  | false => rfl
  | true =>
      cases o with
      | refused => rfl
      | dropped => rfl
      | answered r =>
          simp only [if_true, replied, Http.Reply.told]
          cases Http.Status.isSuccess r.status with
          | false => rfl
          | true =>
              simp only [if_true, Course.told, told_body,
                feedAll_eq_events]
              simp [Told.after]

end Attempt

end EventFeed

------------------------------------------------------------
-- One Attempt after the Other
------------------------------------------------------------

namespace EventFeed

namespace Config

variable {config : Config}
variable {attempts : UInt32}
variable {told : Told}
variable {rest : List Told}

/- After an attempt that does not end nothing is told. -/
theorem saga_of_unended
    (hEnds : told.ends = false) :
    config.saga attempts (told :: rest) =
      told.callbacks config attempts := by
  simp [saga, hEnds]

/- After one that the client gives up on neither. -/
theorem saga_of_close
    (hAnswer :
      ¬∃ next,
        config.answer (told.attempts attempts) =
          .reconnecting next) :
    config.saga attempts (told :: rest) =
      told.callbacks config attempts := by
  unfold saga
  cases hNotice : config.answer (told.attempts attempts) with
  | reconnecting next => exact absurd ⟨next, hNotice⟩ hAnswer
  | _ => simp

/- After any other the next attempt follows. -/
theorem saga_of_answer
    (hEnds : told.ends = true)
    {next : UInt32}
    (hAnswer :
      config.answer (told.attempts attempts) =
        .reconnecting next) :
    config.saga attempts (told :: rest) =
      told.callbacks config attempts ++
        .reconnected next :: config.saga next rest := by
  simp [saga, hEnds, hAnswer]

end Config

namespace Turn

/- The client connects, and its attempt is ready to begin. -/
structure Docked (t : Turn) : Prop where
  alive : t.alive = true
  handlers : t.client.handlers.Calm
  phase : t.client.link.phase = .connecting
  manual : t.client.link.manual = false
  transport :
    t.client.link.transport = some t.client.link.generation

variable {t t' : Turn}
variable {config : Config}

/- An attempt that begins is under way. -/
theorem Docked.underway
    (hDocked : t.Docked) :
    t.beginAttempt.Underway t.begun.size
      t.client.link.generation false := by
  have hBegin :
      t.beginAttempt =
        { t with
          begun := t.begun.push t.client.link.generation
          seen :=
            .began t.client.config.transport.kind
              t.client.config.url :: t.seen } := by
    simp [beginAttempt, hDocked.transport, hDocked.alive]
  rw [hBegin]
  constructor
  · exact hDocked.alive
  · exact hDocked.handlers
  · exact Array.getElem?_push_size
  · simp [Link.isLive, hDocked.manual]
  · exact hDocked.phase
  · intro hOpened
    contradiction

theorem callbacks_beginAttempt (t : Turn) :
    t.beginAttempt.callbacks = t.callbacks := by
  have hBegan :
      ∀ kind url,
        (t.seen.reverse ++
            [Observation.began kind url]).filterMap
            Observation.callback? =
          t.callbacks := by
    intro kind url
    rw [List.filterMap_append]
    exact List.append_nil _
  unfold beginAttempt
  split
  · split
    · unfold callbacks
      rw [List.reverse_cons, hBegan]
      rfl
    · rfl
  · rfl

theorem client_beginAttempt (t : Turn) :
    t.beginAttempt.client = t.client := by
  unfold beginAttempt
  split
  · split <;> rfl
  · rfl

/- The timer of a client that waits starts its next attempt. -/
theorem docked_of_heeds
    (hAlive : t.alive = true)
    {attempts : UInt32}
    (hHeeds :
      t.client.link.Heeds (.reconnecting attempts))
    (hServed :
      t.Served
        (t.client.fireTimer t.now t.client.link.generation)
        t') :
    t'.Docked ∧
      t'.callbacks =
        t.callbacks ++ [.reconnected attempts] ∧
      t'.client.link.attempts = attempts := by
  rcases hHeeds with ⟨hPhase, hManual, hAttempts⟩
  have hFires :
      (t.client.link.manual ||
        t.client.link.phase != .reconnecting ||
        t.client.link.generation !=
          t.client.link.generation) = false := by
    simp [hManual, hPhase]
  have hOutcome :
      t.client.fireTimer t.now t.client.link.generation =
        ⟨Client.count
            { t.client with
              link :=
                ({ t.client.link with timer := none }.start
                  t.client.config t.now).1 }
            .reconnects,
          .retrying attempts t.client.config.url ::
            ({ t.client.link with timer := none }.start
              t.client.config t.now).2,
          [.call (.reconnected attempts)]⟩ := by
    simp only [Client.fireTimer, hFires, Bool.false_eq_true,
      if_false, hAttempts]
  rw [hOutcome] at hServed
  refine ⟨⟨?_, hServed.handlers, ?_, ?_, ?_⟩, ?_, ?_⟩
  · exact hServed.alive.trans hAlive
  · rw [hServed.link]
    rfl
  · rw [hServed.link]
    rfl
  · rw [hServed.link]
    rfl
  · exact hServed.callbacks
  · rw [hServed.link]
    exact hAttempts

/-
  Attempts that are made one after the other tell what each of
  them does on its own.
-/
theorem Docked.voyage
    (hDocked : t.Docked)
    (courses : List Course) :
    (t.voyage courses).callbacks =
      t.callbacks ++
        t.client.config.saga t.client.link.attempts
          (courses.map (Course.told false)) := by
  induction courses generalizing t with
  | nil => exact (List.append_nil _).symm
  | cons course rest ih =>
      have hConcluded := hDocked.underway.pursue course
      have hClient := t.client_beginAttempt
      have hBefore := t.callbacks_beginAttempt
      have hCalls := hConcluded.callbacks
      have hEnded := hConcluded.ended
      have hConfig := hConcluded.config
      rw [hClient, hBefore] at hCalls
      rw [hClient] at hEnded hConfig
      unfold Turn.voyage
      rw [List.map_cons]
      generalize
        t.beginAttempt.pursue t.begun.size
          t.client.link.generation course = t' at *
      cases hEnds : (course.told false).ends with
      | false =>
          have hActive := hConcluded.unended hEnds
          have hPhase :
              t'.client.link.phase ≠ .reconnecting := by
            intro hWaits
            rw [hWaits] at hActive
            contradiction
          rw [Config.saga_of_unended hEnds]
          simp only [hPhase, if_false]
          exact hCalls
      | true =>
          have hHeeds := hEnded hEnds
          by_cases hWaits :
              ∃ next,
                t.client.config.answer
                    ((course.told false).attempts
                      t.client.link.attempts) =
                  .reconnecting next
          · rcases hWaits with ⟨next, hAnswer⟩
            rw [hAnswer] at hHeeds
            have hServed :=
              served_fireTimer hConcluded.handlers
                t'.client.link.generation
            rcases
              docked_of_heeds hConcluded.alive hHeeds hServed
              with ⟨hNext, hNews, hAttempts⟩
            rw [Config.saga_of_answer hEnds hAnswer]
            simp only [hHeeds.1, if_true]
            rw [ih hNext, hNews, hServed.config, hConfig,
              hAttempts, hCalls]
            simp
          · have hPhase :
                t'.client.link.phase ≠ .reconnecting := by
              intro hPhase
              cases hAnswer :
                  t.client.config.answer
                    ((course.told false).attempts
                      t.client.link.attempts) with
              | reconnecting next => exact hWaits ⟨next, hAnswer⟩
              | _ =>
                  rw [hAnswer] at hHeeds
                  have hClosed :
                      t'.client.link.phase = .closed :=
                    hHeeds
                  rw [hClosed] at hPhase
                  contradiction
            rw [Config.saga_of_close hWaits]
            simp only [hPhase, if_false]
            exact hCalls

------------------------------------------------------------
-- Responses End to End
------------------------------------------------------------

/- A reached client that connects is ready for its attempt. -/
theorem docked_of_reached
    {moves : List Move}
    (hReached : t = (fresh config).follow moves)
    (hAlive : t.alive = true)
    (hCalm : t.client.handlers.Calm)
    (hPhase : t.client.link.phase = .connecting) :
    t.Docked := by
  rcases governed_of_reached hReached with ⟨_, hGoverned⟩
  have hActive : t.client.link.phase.isActive = true := by
    rw [hPhase]
    rfl
  have hLive := hGoverned.isLive_link hActive
  refine
    ⟨hAlive, hCalm, hPhase,
      (Effect.manual_of_isLive hLive).2, ?_⟩
  have hSome := hGoverned.sound.transport.mpr hActive
  rcases Option.isSome_iff_exists.mp hSome with
    ⟨generation, hHeld⟩
  rw [hHeld, hGoverned.sound.transportDate generation hHeld]

/- What an attempt that is under way tells of its response. -/
theorem Underway.response
    {attempt : Nat}
    {generation : UInt64}
    (hUnderway : t.Underway attempt generation false)
    {credential : String}
    (hTransport :
      t.client.config.transport = .authenticated credential)
    {o : Http.Outcome}
    {course : Course}
    (hCourse :
      course.unpaused = Attempt.course t.client.config o) :
    (t.pursue attempt generation course).callbacks =
      t.callbacks ++
        (o.told t.client.config.url credential).callbacks
          t.client.config t.client.link.attempts := by
  have hTold :
      course.told false =
        o.told t.client.config.url credential := by
    rw [← Course.told_unpaused, hCourse, Attempt.course,
      hTransport]
    exact Attempt.told_authenticated _ credential o
  rw [← hTold]
  exact (hUnderway.pursue course).callbacks

/-
  Whatever comes of the request of a client that connects, and
  wherever there are pauses, its attempt leads to the calls
  that the outcome tells, and then to the one answer to its
  end.  Several attempts, one after the other, lead to what
  each of them tells on its own.  And so it is in a session
  while the handle is held.
-/
theorem told_of_responses
    (config : Config)
    (moves : List Move)
    (credential : String)
    (hReached : t = (fresh config).follow moves)
    (hTransport : config.transport = .authenticated credential)
    (hAlive : t.alive = true)
    (hCalm : t.client.handlers.Calm)
    (hPhase : t.client.link.phase = .connecting) :
    (∀ attempt generation o course,
        t.begun[attempt]? = some generation →
        t.client.link.isLive generation = true →
        Course.unpaused course = Attempt.course config o →
          (t.pursue attempt generation course).callbacks =
            t.callbacks ++
              (o.told config.url credential).callbacks config
                t.client.link.attempts) ∧
      (∀ (outcomes : List Http.Outcome) (courses : List Course),
        courses.map Course.unpaused =
            outcomes.map (Attempt.course config) →
          (t.voyage courses).callbacks =
            t.callbacks ++
              config.saga t.client.link.attempts
                (outcomes.map
                  (Http.Outcome.told config.url credential))) ∧
        ∀ (s : Session) attempt generation o,
          s.asTurn = t →
          t.begun[attempt]? = some generation →
          t.client.link.isLive generation = true →
          (t.pursue attempt generation
              (Attempt.course config o)).held = true →
            (s.play attempt generation
                (Attempt.course config o)).asTurn.callbacks =
              t.callbacks ++
                (o.told config.url credential).callbacks config
                  t.client.link.attempts := by
  have hDocked := docked_of_reached hReached hAlive hCalm hPhase
  have hConfig : t.client.config = config :=
    (governed_of_reached hReached).2.configured
  have hUnderway :
      ∀ attempt generation,
        t.begun[attempt]? = some generation →
        t.client.link.isLive generation = true →
          t.Underway attempt generation false := by
    intro attempt generation hBegun hLive
    exact ⟨hAlive, hCalm, hBegun, hLive, hPhase, by simp⟩
  subst hConfig
  refine ⟨?_, ?_, ?_⟩
  · intro attempt generation o course hBegun hLive hCourse
    exact
      (hUnderway attempt generation hBegun hLive).response
        hTransport hCourse
  · intro outcomes courses hCourses
    have hTold :
        courses.map (Course.told false) =
          outcomes.map
            (Http.Outcome.told t.client.config.url
              credential) := by
      have hSame :=
        congrArg (List.map (Course.told false)) hCourses
      simp only [List.map_map, Function.comp_def,
        Course.told_unpaused, Attempt.course, hTransport,
        Attempt.told_authenticated] at hSame
      exact hSame
    rw [hDocked.voyage, hTold]
  · intro s attempt generation o hTurn hBegun hLive hHeld
    subst hTurn
    have hPauses :
        ∀ m ∈ Attempt.course s.asTurn.client.config o,
          m.isPause = false := by
      rw [Attempt.course, hTransport]
      exact Attempt.isPause_authenticated _ credential o
    have hUnpaused :
        Course.unpaused
            (Attempt.course s.asTurn.client.config o) =
          Attempt.course s.asTurn.client.config o := by
      apply List.filter_eq_self.mpr
      intro m hMember
      rw [hPauses m hMember]
      rfl
    rw [← (s.alike_play hAlive hPauses hHeld).callbacks]
    exact
      (hUnderway attempt generation hBegun hLive).response
        hTransport hUnpaused

/-
  A body that is cut within a character and ends within a
  frame, after a message and a ping.
-/
def torn : Http.Outcome :=
  .answered
    { status := 200
      contentType := none
      chunks :=
        [[0x64, 0x61, 0x74, 0x61, 0x3a, 0xc3],
          [0xa9, 0x0a, 0x0a, 0x65, 0x76, 0x65, 0x6e, 0x74, 0x3a,
            0x70, 0x69, 0x6e, 0x67, 0x0a, 0x64, 0x61, 0x74, 0x61,
            0x3a, 0x0a, 0x0a, 0x64, 0x61, 0x74, 0x61, 0x3a, 0x78,
            0x0a]]
      ending := .complete }

/-
  The handler of pings fails.  The first attempt gets a torn
  body, the second one is refused by status, and the third one
  gets no reply.  A pause makes no difference to the first.
-/
theorem told_of_responses_torn :
    ∃ (config : Config) (t : Turn),
      config =
          { (default : Config) with
            credential := some ""
            autoReconnect := true
            maxAttempts := some 2 } ∧
        t =
          (fresh config).follow
            [.act (.register .ping [[.panic]]), .step,
              .act .connect, .step] ∧
        ((t.voyage
            ([torn, .answered ⟨503, none, [], .silent⟩,
                .refused].map
              (Attempt.course config))).callbacks.map
            Callback.slot) =
          [.opened, .message, .ping, .reconnecting, .reconnected,
            .error, .reconnecting, .reconnected, .error,
            .closed] ∧
        ((t.beginAttempt.pursue 0 1
            (.wait 1 :: Attempt.course config torn)).callbacks.map
            Callback.slot) =
          [.opened, .message, .ping, .reconnecting] := by
  have hEmpty : (Registry.empty : Registry Handler).Calm := by
    intro slot handler hGet
    cases slot <;> contradiction
  have hCalm :
      ((Registry.empty : Registry Handler).register .ping
        [[.panic]]).Calm :=
    hEmpty.register .ping rfl
  refine ⟨_, _, rfl, rfl, ?_, ?_⟩
  · have hReady :=
      told_of_responses
        { (default : Config) with
          credential := some ""
          autoReconnect := true
          maxAttempts := some 2 }
        [.act (.register .ping [[.panic]]), .step, .act .connect,
          .step]
        "" rfl rfl rfl hCalm rfl
    rw [hReady.2.1
      [torn, .answered ⟨503, none, [], .silent⟩, .refused] _
      (by decide +kernel)]
    decide +kernel
  · have hBegun :=
      told_of_responses
        { (default : Config) with
          credential := some ""
          autoReconnect := true
          maxAttempts := some 2 }
        [.act (.register .ping [[.panic]]), .step, .act .connect,
          .step, .begin]
        "" rfl rfl rfl hCalm rfl
    refine
      (congrArg (List.map Callback.slot)
        (hBegun.1 0 1 torn _ rfl rfl ?_)).trans ?_
    · decide +kernel
    · decide +kernel

end Turn

end EventFeed
