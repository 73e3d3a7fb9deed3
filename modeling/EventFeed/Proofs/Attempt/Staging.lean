import EventFeed.Attempt.Network
import EventFeed.Proofs.Attempt.Crew
import EventFeed.Proofs.Attempt.Pursuit

/-
  This file proves that a session is a run of a client with its
  crew.

  A session lets its attempts, its timers and the program take
  their turns in the order of virtual time.  Whatever it does,
  there are moves of the crew that come to the same, up to
  answers and remarks; so what holds of every run of a crew
  holds of every session.

  Key definitions include:
    * `Session.Staged`
    * `Session.Stages`
    * `Session.run`

  Key results include:
    * `Session.stages_turn`
    * `Session.isStaged_play`
    * `Session.stages_tick`
    * `Session.staged_run`
    * `Session.unorphaned_run`
-/

------------------------------------------------------------
-- Turns as Runs
------------------------------------------------------------

namespace EventFeed

namespace Turn

/- A turn is finished by taking steps. -/
theorem finish_eq_follow (t : Turn) :
    ∃ n, t.finish = t.follow (List.replicate n .step) := by
  refine
    finish_induction
      (P := fun t' =>
        ∃ n, t' = t.follow (List.replicate n .step))
      ?_ ⟨0, rfl⟩
  rintro t' ⟨n, rfl⟩
  refine ⟨n + 1, ?_⟩
  rw [List.replicate_succ', follow_append]
  rfl

end Turn

namespace Crew

/- What is not up to the attempts leaves them where they are. -/
theorem follow_turns
    (c : Crew)
    {moves : List Turn.Move}
    (hBegin : .begin ∉ moves) :
    c.follow (moves.map .turn) =
      { c with turn := c.turn.follow moves } := by
  induction moves generalizing c with
  | nil => rfl
  | cons m moves ih =>
      rw [List.mem_cons, not_or] at hBegin
      have hOne : c.turnMoves (.turn m) = [m] := by
        cases m <;> first | rfl | exact absurd rfl hBegin.1
      have hFirst :
          c.move (.turn m) =
            { c with turn := c.turn.move m } := by
        simp only [move, hOne, leftAfter]
        rfl
      show (c.move (.turn m)).follow (moves.map .turn) = _
      rw [hFirst, ih _ hBegin.2]
      rfl

theorem follow_append
    (c : Crew)
    (moves later : List Move) :
    c.follow (moves ++ later) =
      (c.follow moves).follow later :=
  List.foldl_append

end Crew

end EventFeed

------------------------------------------------------------
-- Sessions on Stage
------------------------------------------------------------

namespace EventFeed

namespace Session

/- All remarks are left out. -/
def silence : Remark → Bool :=
  fun _ => false

/-
  The crew is where the session is, and an attempt that pauses
  has the same left to do.
-/
structure Staged (c : Crew) (s : Session) : Prop where
  alike : c.turn.Alike silence s.asTurn
  paused :
    ∀ p, s.playing = some p →
      s.begun[p.attempt]? = some p.generation ∧
        c.left p.attempt = p.rest

/-
  Wherever a crew is when the session is there, moves take it
  to where the session gets; and only courses of the session
  begin.
-/
def Stages (s s' : Session) : Prop :=
  s'.courses = s.courses ∧
    ∀ c : Crew, Staged c s →
      ∃ moves,
        (∀ course, .begin course ∈ moves →
          ∃ n, course = s.courses n) ∧
          Staged (c.follow moves) s'

variable {s s' s'' : Session}
variable {c : Crew}

theorem Stages.refl (s : Session) : s.Stages s :=
  ⟨rfl, fun c hStaged => ⟨[], by simp, hStaged⟩⟩

theorem Stages.trans
    (hFirst : s.Stages s')
    (hSecond : s'.Stages s'') :
    s.Stages s'' := by
  refine ⟨hSecond.1.trans hFirst.1, ?_⟩
  intro c hStaged
  rcases hFirst.2 c hStaged with ⟨moves, hMoves, hMiddle⟩
  rcases hSecond.2 _ hMiddle with ⟨later, hLater, hEnd⟩
  refine ⟨moves ++ later, ?_, ?_⟩
  · intro course hMember
    rcases List.mem_append.mp hMember with hOld | hNew
    · exact hMoves course hOld
    · rw [← hFirst.1]
      exact hLater course hNew
  · rw [Crew.follow_append]
    exact hEnd

theorem Staged.begun
    (hStaged : Staged c s) :
    c.turn.begun = s.begun :=
  hStaged.alike.begun.symm

------------------------------------------------------------
-- Turns on Stage
------------------------------------------------------------

/- A turn is over, and the client with it if nobody holds it. -/
theorem alike_drop (s : Session) (task : Task) :
    Turn.Alike silence
      ((s.asTurn.facing task).finish.move .drop)
      (s.turn task).1.asTurn := by
  have hKept := s.kept_of_turn task
  have hIdle := (s.asTurn.facing task).agenda_finish
  have hTurn :
      (s.turn task).1.asTurn =
        { (s.asTurn.facing task).finish with
          now := s.now
          begun := s.begun
          alive :=
            (s.asTurn.facing task).finish.alive &&
              (s.asTurn.facing task).finish.held
          agenda := []
          answers := [] } :=
    rfl
  rw [hTurn, ← hKept.1, ← hKept.2]
  by_cases hHeld : (s.asTurn.facing task).finish.held = true
  · simp [Turn.move, Turn.Alike, Turn.gist, hHeld, hIdle]
  · simp [Turn.move, Turn.Alike, Turn.gist, hHeld, hIdle]

/- The moves that a turn is made of, after the first. -/
theorem exists_moves_of_turn
    {m : Turn.Move}
    {task : Task}
    (hMove : s.asTurn.move m = s.asTurn.facing task) :
    ∃ later : List Turn.Move,
      .begin ∉ later ∧
        ∀ t : Turn, t.Alike silence s.asTurn →
          (t.follow (m :: .step :: later)).Alike silence
            (s.turn task).1.asTurn := by
  have hFinish :
      (s.asTurn.facing task).finish =
        (s.asTurn.facing task).step.finish :=
    Turn.finish_eq_finish_step (List.cons_ne_nil _ _)
  rcases (s.asTurn.facing task).step.finish_eq_follow with
    ⟨n, hSteps⟩
  refine ⟨List.replicate n .step ++ [.drop], ?_, ?_⟩
  · simp
  · intro t hAlike
    have hEnd :
        s.asTurn.follow
            (m :: .step :: (List.replicate n .step ++ [.drop])) =
          (s.asTurn.facing task).finish.move .drop := by
      rw [Turn.follow_cons, Turn.follow_cons,
        Turn.follow_append, hMove, hFinish, hSteps]
      rfl
    have hFollow :=
      hAlike.follow
        (m :: .step :: (List.replicate n .step ++ [.drop]))
    rw [hEnd] at hFollow
    exact hFollow.trans (s.alike_drop task)

theorem stages_turn
    {m : Turn.Move}
    {task : Task}
    (hMove : s.asTurn.move m = s.asTurn.facing task)
    (hBegin : m ≠ .begin) :
    s.Stages (s.turn task).1 := by
  rcases exists_moves_of_turn hMove with
    ⟨later, hNone, hAlike⟩
  refine ⟨rfl, ?_⟩
  intro c hStaged
  have hMoves : .begin ∉ m :: .step :: later := by
    simp [hNone, hBegin.symm]
  refine ⟨(m :: .step :: later).map .turn, ?_, ?_⟩
  · intro course hMember
    simp at hMember
  · rw [Crew.follow_turns c hMoves]
    constructor
    · exact hAlike c.turn hStaged.alike
    · exact hStaged.paused

/- Whatever the program does is a move. -/
theorem stages_act (s : Session) (a : Action) :
    s.Stages (s.turn (.act a)).1 :=
  stages_turn (m := .act a) rfl Turn.Move.noConfusion

------------------------------------------------------------
-- Attempts on Stage
------------------------------------------------------------

theorem courses_play
    (s : Session)
    (attempt : Nat)
    (generation : UInt64)
    (course : Course) :
    (s.play attempt generation course).courses = s.courses := by
  induction course generalizing s with
  | nil => rfl
  | cons m rest ih =>
      cases m with
      | report r => exact ih _
      | remark r => exact ih _
      | check r =>
          unfold play
          split
          · exact ih s
          · cases r <;> rfl
      | wait span => rfl
      | hold => rfl

/- The crew can get to where the session is, with no beginning. -/
def IsStaged (c : Crew) (s : Session) : Prop :=
  ∃ moves,
    (∀ course, .begin course ∉ moves) ∧
      Staged (c.follow moves) s

theorem isStaged_of_follow
    {c' : Crew}
    {moves : List Crew.Move}
    (hFollow : c.follow moves = c')
    (hMoves : ∀ course, .begin course ∉ moves)
    (hStaged : IsStaged c' s) :
    IsStaged c s := by
  rcases hStaged with ⟨later, hLater, hEnd⟩
  refine ⟨moves ++ later, ?_, ?_⟩
  · intro course
    rw [List.mem_append, not_or]
    exact ⟨hMoves course, hLater course⟩
  · rw [Crew.follow_append, hFollow]
    exact hEnd

/- An attempt that has nothing more to do does not pause. -/
theorem Staged.isStaged_of_over
    (hAlike : c.turn.Alike silence s.asTurn)
    (hOver : s.playing = none) :
    IsStaged c s := by
  refine ⟨[], by simp, hAlike, ?_⟩
  intro p hPlaying
  rw [hOver] at hPlaying
  contradiction

variable {attempt : Nat}
variable {generation : UInt64}
variable {rest : Course}

/- A report of an attempt comes to the client at once. -/
theorem go_report
    {r : Report}
    (hAlike : c.turn.Alike silence s.asTurn)
    (hLeft : c.left attempt = .report r :: rest) :
    c.move (.go attempt) =
      { turn :=
          c.turn.follow [.act (.report attempt r), .step]
        left := Function.update c.left attempt rest } := by
  have hIdle : c.turn.agenda = [] :=
    List.map_eq_nil_iff.mp (congrArg Turn.agenda hAlike)
  simp [Crew.move, Crew.turnMoves, Crew.leftAfter, Crew.onward,
    hLeft, Turn.isFree, hIdle]

/- Nothing else that it does concerns the client. -/
theorem go_quietly
    {m : Move}
    (hLeft : c.left attempt = m :: rest)
    (hQuiet : ∀ r, m ≠ .report r) :
    c.follow [.go attempt] =
      { c with
        left :=
          Function.update c.left attempt
            (c.onward attempt) } := by
  have hNone : c.turnMoves (.go attempt) = [] := by
    simp only [Crew.turnMoves, hLeft]
    cases m <;> first | rfl | exact absurd rfl (hQuiet _)
  show c.move (.go attempt) = _
  simp [Crew.move, hNone, Crew.leftAfter]

/- A remark makes no difference. -/
theorem alike_remark
    (hAlike : c.turn.Alike silence s.asTurn)
    (r : Remark) :
    c.turn.Alike silence (s.observe (.remark r)).asTurn := by
  refine hAlike.trans ?_
  simp [Turn.Alike, Turn.gist, asTurn, observe, silence,
    Observation.gist?]

theorem isLive_of_alike
    (hAlike : c.turn.Alike silence s.asTurn)
    (hBegun : s.begun[attempt]? = some generation) :
    c.isLive attempt = s.isLive generation := by
  have hSame : c.turn.begun[attempt]? = some generation := by
    rw [← hAlike.begun]
    exact hBegun
  simp only [Crew.isLive, hSame, hAlike.isLive generation]
  rfl

/-
  An attempt plays its course until it pauses or ends, move by
  move.
-/
theorem isStaged_play
    {course : Course}
    (hAlike : c.turn.Alike silence s.asTurn)
    (hBegun : s.begun[attempt]? = some generation)
    (hLeft : c.left attempt = course) :
    IsStaged c (s.play attempt generation course) := by
  induction course generalizing c s with
  | nil => exact Staged.isStaged_of_over hAlike rfl
  | cons m rest ih =>
      cases m with
      | report r =>
          have hMove :
              s.asTurn.move (.act (.report attempt r)) =
                s.asTurn.facing (.act (.report attempt r)) := by
            rfl
          rcases exists_moves_of_turn hMove with
            ⟨later, hNone, hTurn⟩
          have hFollow :
              c.follow (.go attempt :: later.map .turn) =
                { turn :=
                    c.turn.follow
                      (.act (.report attempt r) :: .step ::
                        later)
                  left :=
                    Function.update c.left attempt rest } := by
            show (c.move (.go attempt)).follow _ = _
            rw [Crew.follow_turns _ hNone,
              go_report hAlike hLeft]
            rfl
          refine
            isStaged_of_follow hFollow (by simp)
              (ih ?_ hBegun ?_)
          · exact hTurn c.turn hAlike
          · exact Function.update_self _ _ _
      | remark r =>
          refine
            isStaged_of_follow (go_quietly hLeft (by simp))
              (by simp) (ih ?_ hBegun ?_)
          · exact alike_remark hAlike r
          · simp [Crew.onward, hLeft]
      | check r =>
          have hGo := go_quietly hLeft (by simp)
          have hOnward :
              c.onward attempt =
                if s.isLive generation then rest else [] := by
            rw [← isLive_of_alike hAlike hBegun]
            simp only [Crew.onward, hLeft]
          unfold play
          by_cases hLive : s.isLive generation = true
          · rw [if_pos hLive] at hOnward ⊢
            refine
              isStaged_of_follow hGo (by simp)
                (ih hAlike hBegun ?_)
            simp [hOnward]
          · rw [if_neg hLive]
            cases r with
            | none =>
                exact Staged.isStaged_of_over hAlike rfl
            | some remark =>
                refine Staged.isStaged_of_over ?_ rfl
                exact alike_remark hAlike remark
      | wait span =>
          refine
            ⟨[.go attempt], by simp, ?_⟩
          rw [go_quietly hLeft (by simp)]
          constructor
          · exact hAlike
          · intro p hPlaying
            simp only [play] at hPlaying
            split at hPlaying
            · cases hPlaying
              refine ⟨hBegun, ?_⟩
              simp [Crew.onward, hLeft]
            · contradiction
      | hold => exact Staged.isStaged_of_over hAlike rfl

------------------------------------------------------------
-- Time on Stage
------------------------------------------------------------

/- The attempt that is held begins. -/
theorem stages_begin
    (hWaiting : s.waiting? = some generation) :
    s.Stages (s.begin generation) := by
  refine ⟨courses_play _ _ _ _, ?_⟩
  intro c hStaged
  have hHeld :
      s.alive = true ∧
        s.client.link.transport = some generation ∧
        s.begun.back? ≠ some generation := by
    unfold waiting? at hWaiting
    split at hWaiting
    · next hAlive =>
        rw [Option.filter_eq_some_iff] at hWaiting
        exact ⟨hAlive, hWaiting.1, by simpa using hWaiting.2⟩
    · contradiction
  have hCrew : c.isWaiting = true := by
    have hClient : c.turn.client = s.client :=
      hStaged.alike.client.symm
    have hAlive : c.turn.alive = s.alive :=
      hStaged.alike.alive.symm
    simp [Crew.isWaiting, hClient, hAlive, hStaged.begun,
      hHeld.1, hHeld.2.1, hHeld.2.2]
  have hMove :
      (s.asTurn.move .begin) =
        Session.asTurn
          ({ s with begun := s.begun.push generation }.observe
            (.began s.client.config.transport.kind
              s.client.config.url)) := by
    simp [Turn.move, Turn.beginAttempt, asTurn, hHeld.1,
      hHeld.2.1, observe]
  have hFirst :
      c.move (.begin (s.courses s.begun.size)) =
        { turn := c.turn.move .begin
          left :=
            Function.update c.left s.begun.size
              (s.courses s.begun.size) } := by
    simp [Crew.move, Crew.turnMoves, Crew.leftAfter, hCrew,
      hStaged.begun]
  have hAlike := hStaged.alike.move .begin
  rw [hMove] at hAlike
  have hPlay :
      IsStaged (c.move (.begin (s.courses s.begun.size)))
        (s.begin generation) := by
    rw [hFirst]
    refine isStaged_play hAlike ?_ ?_
    · exact Array.getElem?_push_size
    · exact Function.update_self _ _ _
  rcases hPlay with ⟨moves, hMoves, hEnd⟩
  refine
    ⟨.begin (s.courses s.begun.size) :: moves, ?_, hEnd⟩
  intro course hMember
  rcases List.mem_cons.mp hMember with hOne | hOther
  · rw [Crew.Move.begin.injEq] at hOne
    exact ⟨s.begun.size, hOne⟩
  · exact absurd hOther (hMoves course)

/- Time passes until an instant. -/
theorem stages_until (s : Session) (later : Time) :
    s.Stages { s with now := max s.now later } := by
  refine ⟨rfl, ?_⟩
  intro c hStaged
  have hLater :
      s.asTurn.move (.wait (max s.now later - s.now)) =
        asTurn { s with now := max s.now later } := by
    have hSum :
        s.now + (max s.now later - s.now) = max s.now later :=
      Nat.add_sub_cancel' (Nat.le_max_left _ _)
    simp only [Turn.move, asTurn, hSum]
  have hAlike :=
    hStaged.alike.move (.wait (max s.now later - s.now))
  rw [hLater] at hAlike
  refine
    ⟨[.turn (.wait (max s.now later - s.now))], by simp, ?_⟩
  constructor
  · exact hAlike
  · exact hStaged.paused

/- An attempt that paused goes on. -/
theorem stages_wake
    {p : Playing}
    (hPlaying : s.playing = some p) :
    s.Stages
      ({ s with playing := none }.play p.attempt p.generation
        p.rest) := by
  refine ⟨courses_play _ _ _ _, ?_⟩
  intro c hStaged
  rcases hStaged.paused p hPlaying with ⟨hBegun, hLeft⟩
  rcases
    isStaged_play (s := { s with playing := none })
      hStaged.alike hBegun hLeft with
    ⟨moves, hMoves, hEnd⟩
  refine ⟨moves, ?_, hEnd⟩
  intro course hMember
  exact absurd hMember (hMoves course)

/- What is set to happen is so for a client that is there. -/
theorem of_mem_entries
    {e : Entry}
    (hEntry : e ∈ s.entries) :
    s.alive = true ∧
      ∀ p, e.what = .wake p → s.playing = some p := by
  unfold entries at hEntry
  split at hEntry
  · next hAlive =>
      refine ⟨hAlive, ?_⟩
      intro p hWhat
      simp only [List.mem_append] at hEntry
      rcases hEntry with (hPause | hAlarm) | hTimer
      · split at hPause
        · next q hPlaying =>
            split at hPause
            · rw [List.mem_singleton] at hPause
              subst hPause
              cases hWhat
              exact hPlaying
            · contradiction
        · contradiction
      · split at hAlarm
        · rw [List.mem_singleton] at hAlarm
          subst hAlarm
          contradiction
        · contradiction
      · split at hTimer
        · rw [List.mem_singleton] at hTimer
          subst hTimer
          contradiction
        · contradiction
  · contradiction

/- An entry that is due happens. -/
theorem stages_happen
    {e : Entry}
    (hEntry : e ∈ s.entries) :
    s.Stages (s.happen e.due e.what) := by
  rcases of_mem_entries hEntry with ⟨hAlive, hPlaying⟩
  refine (s.stages_until e.due).trans ?_
  unfold happen
  cases hWhat : e.what with
  | wake p => exact stages_wake (hPlaying p hWhat)
  | alarm generation token =>
      refine
        stages_turn (m := .alarm generation token) ?_
          Turn.Move.noConfusion
      simp [Turn.move, asTurn, hAlive, Turn.put, Turn.isFree,
        Turn.facing]
  | timer generation =>
      refine
        stages_turn (m := .timer generation) ?_
          Turn.Move.noConfusion
      simp [Turn.move, asTurn, hAlive, Turn.put, Turn.isFree,
        Turn.facing]

theorem mem_of_earliest?
    {entries : List Entry}
    {e : Entry}
    (hEarliest : earliest? entries = some e) :
    e ∈ entries := by
  induction entries generalizing e with
  | nil => contradiction
  | cons first rest ih =>
      unfold earliest? at hEarliest
      split at hEarliest
      · next f hRest =>
          split at hEarliest
          · cases hEarliest
            exact List.mem_cons_of_mem first (ih hRest)
          · cases hEarliest
            exact List.mem_cons_self
      · cases hEarliest
        exact List.mem_cons_self

theorem stages_tick
    {limit : Time}
    (hTick : s.tick limit = some s') :
    s.Stages s' := by
  unfold tick at hTick
  split at hTick
  · next generation hWaiting =>
      cases hTick
      exact stages_begin hWaiting
  · split at hTick
    · next e hEarliest =>
        split at hTick
        · cases hTick
          exact stages_happen (mem_of_earliest? hEarliest)
        · contradiction
    · contradiction

theorem stages_settleFor
    (limit : Time)
    (n : Nat)
    (s : Session) :
    s.Stages (settleFor limit n s) := by
  induction n generalizing s with
  | zero => exact .refl s
  | succ n ih =>
      unfold settleFor
      split
      · next s' hTick => exact (stages_tick hTick).trans (ih s')
      · exact .refl s

theorem stages_settle
    (s : Session)
    (limit : Time) :
    s.Stages (s.settle limit) :=
  (stages_settleFor limit s.patience s).trans
    (stages_until _ limit)

------------------------------------------------------------
-- Deeds on Stage
------------------------------------------------------------

mutual

theorem stages_perform (s : Session) :
    ∀ a, s.Stages (s.perform a).1
  | .batch actions => by
      unfold perform
      exact stages_performAll s actions
  | .connect => stages_act s .connect
  | .disconnect => stages_act s .disconnect
  | .report attempt r => stages_act s (.report attempt r)
  | .register slot reactions =>
      stages_act s (.register slot reactions)
  | .unregister slot => stages_act s (.unregister slot)
  | .ask q => stages_act s (.ask q)
  | .release => stages_act s .release
  | .panic => stages_act s .panic
  | .idle => stages_act s .idle

theorem stages_performAll (s : Session) :
    ∀ actions, s.Stages (s.performAll actions).1
  | [] => .refl s
  | a :: rest =>
      (stages_perform s a).trans
        (stages_performAll (s.perform a).1 rest)

end

/- What is done with a session. -/
inductive Deed
  /- the program does something -/
  | act (a : Action)
  /- time passes -/
  | advance (span : Span)
deriving Inhabited, Repr

def run (s : Session) : List Deed → Session
  | [] => s
  | .act a :: deeds => (s.act a).1.run deeds
  | .advance span :: deeds => (s.advance span).run deeds

theorem stages_run
    (s : Session)
    (deeds : List Deed) :
    s.Stages (s.run deeds) := by
  induction deeds generalizing s with
  | nil => exact .refl s
  | cons deed deeds ih =>
      cases deed with
      | act a =>
          refine ((stages_perform s a).trans ?_).trans (ih _)
          exact stages_settle _ _
      | advance span =>
          exact (stages_settle s _).trans (ih _)

/- A new client has nothing to do, and no attempts. -/
theorem staged_new
    (config : Config)
    (courses : Nat → Course) :
    Staged (Crew.fresh config) (new (Client.new config) courses)
    where
  alike := .refl _
  paused p hPlaying := by contradiction

/- Every session is a run of a client with its crew. -/
theorem staged_run
    (config : Config)
    (courses : Nat → Course)
    (deeds : List Deed) :
    ∃ moves,
      (∀ course, .begin course ∈ moves →
        ∃ n, course = courses n) ∧
        Staged ((Crew.fresh config).follow moves)
          ((new (Client.new config) courses).run deeds) :=
  ((new (Client.new config) courses).stages_run deeds).2 _
    (staged_new config courses)

end Session

------------------------------------------------------------
-- Sessions over a Network
------------------------------------------------------------

/- Whatever comes of a request makes a built-in course. -/
theorem Attempt.isBuiltIn_course
    (config : Config)
    (o : Http.Outcome) :
    (Attempt.course config o).IsBuiltIn config := by
  unfold Attempt.course
  cases hKind : config.transport with
  | native =>
      exact .native (Stream.signals config.url o) hKind
  | authenticated credential =>
      exact .authenticated credential o hKind

/-
  A session over a network leaves no connection without an
  attempt that looks after it.
-/
theorem Session.unorphaned_run
    (config : Config)
    (outcomes : Nat → Http.Outcome)
    (deeds : List Session.Deed) :
    ∃ c : Crew,
      Session.Staged c
          ((Session.overNetwork (Client.new config)
            outcomes).run deeds) ∧
        (c.turn.teardowns < UInt64.size → c.Unorphaned) := by
  rcases
    Session.staged_run config
      (fun n => Attempt.course config (outcomes n)) deeds with
    ⟨moves, hMoves, hStaged⟩
  refine ⟨_, hStaged, ?_⟩
  intro hTeardowns
  have hCourses :
      ∀ course, .begin course ∈ moves →
        course.IsBuiltIn config := by
    intro course hMember
    rcases hMoves course hMember with ⟨n, hCourse⟩
    rw [hCourse]
    exact Attempt.isBuiltIn_course config (outcomes n)
  have hManned :=
    Crew.manned_follow (Turn.orderly_fresh config)
      (Turn.governed_fresh config) (Crew.manned_fresh config)
      moves hCourses hTeardowns
  apply hManned.unorphaned
  rw [Crew.turn_follow]
  exact Turn.governed_follow config _

end EventFeed
