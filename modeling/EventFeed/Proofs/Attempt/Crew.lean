import EventFeed.Attempt.Network
import EventFeed.Proofs.Client.Retirement
import Mathlib.Logic.Function.Basic

/-
  This file proves that no connection is orphaned.

  A client with its crew is a client together with the
  attempts that it has started, each of them at its own point
  of its course.  Attempts move one at a time, in any order,
  and anything else may come to the client in between.

  Every course of a built-in transport comes to an end that it
  reports, unless it is silent for ever or finds itself
  retired.  So an attempt that has returned is out of date,
  and an active client has an attempt that has not returned.

  Key definitions include:
    * `Course.ends`
    * `Course.IsBuiltIn`
    * `Crew`
    * `Crew.move`
    * `Crew.Unorphaned`

  Key results include:
    * `Course.IsBuiltIn.ends`
    * `Crew.manned_move`
    * `Crew.unorphaned_follow`
-/

------------------------------------------------------------
-- Courses That End
------------------------------------------------------------

namespace EventFeed

/-
  Whether a course reports its end, or pauses for ever before
  it comes to that.
-/
def Course.ends : Course → Bool
  | [] => false
  | .report .closed :: _ => true
  | .hold :: _ => true
  | _ :: rest => ends rest

/- What comes before the end of a course does not matter. -/
theorem Course.ends_append
    (before : Course)
    {course : Course}
    (hEnds : course.ends = true) :
    Course.ends (before ++ course) = true := by
  induction before with
  | nil => exact hEnds
  | cons m rest ih =>
      rw [List.cons_append, Course.ends.eq_def]
      split <;> first | rfl | simp_all

/- Every finite stream of signals is followed to an end. -/
theorem Signal.ends_course (signals : List Signal) :
    Course.ends (Signal.course signals) = true := by
  induction signals with
  | nil => rfl
  | cons signal rest ih =>
      cases signal with
      | error message final =>
          cases final with
          | true => rfl
          | false => exact ih
      | opened => exact ih
      | frame e => exact ih
      | closed => rfl
      | wait span => exact ih
      | hold => rfl

namespace Attempt

theorem ends_ending
    (reader : FrameReader)
    (e : Http.Ending) :
    (ending reader e).ends = true := by
  cases e with
  | complete => exact Course.ends_append _ rfl
  | broken => rfl
  | silent => rfl

/- Every body is read to an end, whatever its chunks. -/
theorem ends_body
    (reader : FrameReader)
    (e : Http.Ending)
    (chunks : List (List UInt8)) :
    (body reader e chunks).ends = true := by
  induction chunks generalizing reader with
  | nil => exact ends_ending reader e
  | cons chunk rest ih =>
      exact Course.ends_append _ (ih (reader.feed chunk).1)

/- Every request comes to an end, whatever comes of it. -/
theorem ends_authenticated
    (url : Url)
    (credential : String)
    (o : Http.Outcome) :
    (authenticated url credential o).ends = true := by
  unfold authenticated
  split
  · split
    · next r =>
        unfold replied
        split
        · exact ends_body FrameReader.new r.ending r.chunks
        · rfl
    · rfl
  · rfl

end Attempt

/-
  The courses of the built-in transports: one follows the
  signals of a source, of whatever kind, and one what comes of
  a request that carries a credential.
-/
inductive Course.IsBuiltIn (config : Config) : Course → Prop
  | native
      (signals : List Signal)
      (hKind : config.transport = .native) :
      IsBuiltIn config (Signal.course signals)
  | authenticated
      (credential : String)
      (o : Http.Outcome)
      (hKind : config.transport = .authenticated credential) :
      IsBuiltIn config
        (Attempt.authenticated config.url credential o)

theorem Course.IsBuiltIn.ends
    {config : Config}
    {course : Course}
    (hBuiltIn : course.IsBuiltIn config) :
    course.ends = true := by
  cases hBuiltIn with
  | native signals => exact Signal.ends_course signals
  | authenticated credential o =>
      exact Attempt.ends_authenticated config.url credential o

end EventFeed

------------------------------------------------------------
-- Crews
------------------------------------------------------------

namespace EventFeed

/-
  A client and the attempts it has started.  `left` is what an
  attempt has yet to do, by its number; nothing is left for
  one that has returned.
-/
structure Crew where
  turn : Turn
  left : Nat → Course

namespace Crew

/- What can happen to a client with its crew. -/
inductive Move
  /- something that is not up to the attempts -/
  | turn (m : Turn.Move)
  /- the attempt that is held begins its course -/
  | begin (course : Course)
  /- an attempt makes its next move -/
  | go (attempt : Nat)
  /- an attempt that was let go is cut short -/
  | cut (attempt : Nat)

/- A new client, which has no attempts yet. -/
def fresh (config : Config) : Crew where
  turn := Turn.fresh config
  left := fun _ => []

/-
  Whether the attempt held has yet to begin: it is any but the
  last of those that have.
-/
def isWaiting (c : Crew) : Bool :=
  match c.turn.client.link.transport with
  | some generation =>
      c.turn.alive && c.turn.begun.back? != some generation
  | none => false

/- Whether the task of the attempt is held. -/
def isHeld (c : Crew) (attempt : Nat) : Bool :=
  match c.turn.begun[attempt]? with
  | some generation =>
      c.turn.alive &&
        c.turn.client.link.transport == some generation
  | none => false

/- Whether reports of the attempt are accepted. -/
def isLive (c : Crew) (attempt : Nat) : Bool :=
  match c.turn.begun[attempt]? with
  | some generation => c.turn.isLive generation
  | none => false

/-
  What an attempt has yet to do after its next move.  A report
  waits while a duty stands first, and a check ends what is
  retired.
-/
def onward (c : Crew) (attempt : Nat) : Course :=
  match c.left attempt with
  | [] => []
  | .report r :: rest =>
      if c.turn.isFree then rest else .report r :: rest
  | .check _ :: rest => if c.isLive attempt then rest else []
  | .hold :: rest => .hold :: rest
  | .remark _ :: rest => rest
  | .wait _ :: rest => rest

/- What is left of all attempts after a move. -/
def leftAfter (c : Crew) : Move → Nat → Course
  | .turn _ => c.left
  | .begin course =>
      if c.isWaiting then
        Function.update c.left c.turn.begun.size course
      else
        c.left
  | .go attempt =>
      Function.update c.left attempt (c.onward attempt)
  | .cut attempt =>
      if c.isHeld attempt then c.left
      else Function.update c.left attempt []

/-
  What a move comes to for the client.  An attempt begins but
  once, and when its course does.
-/
def turnMoves (c : Crew) : Move → List Turn.Move
  | .turn .begin => []
  | .turn m => [m]
  | .begin _ => if c.isWaiting then [.begin] else []
  | .go attempt =>
      match c.left attempt with
      | .report r :: _ =>
          if c.turn.isFree then
            [.act (.report attempt r), .step]
          else
            []
      | _ => []
  | .cut _ => []

def move (c : Crew) (m : Move) : Crew where
  turn := c.turn.follow (c.turnMoves m)
  left := c.leftAfter m

def follow (c : Crew) (moves : List Move) : Crew :=
  moves.foldl move c

/- All that has come to the client along a run. -/
def trace (c : Crew) : List Move → List Turn.Move
  | [] => []
  | m :: moves => c.turnMoves m ++ (c.move m).trace moves

theorem turn_follow (c : Crew) (moves : List Move) :
    (c.follow moves).turn = c.turn.follow (c.trace moves) := by
  induction moves generalizing c with
  | nil => rfl
  | cons m moves ih =>
      have hNext : (c.follow (m :: moves)).turn =
          (c.move m).turn.follow ((c.move m).trace moves) :=
        ih (c.move m)
      rw [hNext, trace, Turn.follow_append]
      rfl

end Crew

end EventFeed

------------------------------------------------------------
-- Attempts That Have Begun
------------------------------------------------------------

namespace EventFeed

namespace Turn

variable {config : Config}
variable {t : Turn}
variable {attempt : Nat}
variable {generation : UInt64}

/- Only one move lets an attempt begin. -/
theorem begun_move_of_ne
    {m : Move}
    (hBegin : m ≠ .begin) :
    (t.move m).begun = t.begun := by
  cases m with
  | step => exact t.begun_step
  | begin => contradiction
  | act a =>
      simp only [move, put]
      split <;> rfl
  | timer other =>
      simp only [move, put]
      split
      · split <;> rfl
      · rfl
  | alarm other token =>
      simp only [move, put]
      split
      · split <;> rfl
      · rfl
  | wait span => rfl
  | drop =>
      simp only [move]
      split <;> rfl

/- An attempt that has reported its end is out of date. -/
theorem isLive_of_closed
    (hOrderly : t.Orderly)
    (hGoverned : t.Governed config)
    (hFree : t.isFree = true)
    (hBegun : t.begun[attempt]? = some generation)
    (hTeardowns :
      (t.follow
        [.act (.report attempt .closed), .step]).teardowns <
          UInt64.size) :
    (t.follow
        [.act (.report attempt .closed), .step]).isLive
      generation = false := by
  have hIssued : t.IsIssued generation :=
    Or.inl (Array.mem_of_getElem? hBegun)
  cases hLive : t.isLive generation with
  | false =>
      exact
        isLive_follow hOrderly hGoverned _ hTeardowns hIssued
          hLive
  | true =>
      have hLe :
          t.teardowns ≤
            (t.follow
              [.act (.report attempt .closed),
                .step]).teardowns :=
        countP_milestones_le_follow hOrderly Remark.isTeardown _
      rw [isLive, Bool.and_eq_true] at hLive
      have hActive : t.client.link.phase.isActive = true := by
        apply (hGoverned.active_of_isIssued
          (Nat.lt_of_le_of_lt hLe hTeardowns) hIssued).2
        exact (Effect.manual_of_isLive hLive.2).1.symm
      have hPut :
          t.move (.act (.report attempt .closed)) =
            { t with
              agenda :=
                .act (.report attempt .closed) :: t.agenda } := by
        simp only [move, put, hFree, if_true]
      have hRetires :
          (t.move (.act (.report attempt .closed))).retires?
              generation .step =
            some (.ended attempt) := by
        rw [hPut]
        simp [retires?, retirement?, hLive.1, hLive.2, hActive,
          hBegun]
      have hRetired :=
        isLive_move_of_retirement (orderly_move hOrderly _)
          hRetires
      rw [follow_cons, follow_cons, follow_nil, isLive, hRetired,
        Bool.and_false]

end Turn

namespace Crew

/-
  Every attempt that has begun has yet to report its end or is
  out of date.
-/
def Manned (c : Crew) : Prop :=
  ∀ attempt generation,
    c.turn.begun[attempt]? = some generation →
      (c.left attempt).ends = true ∨
        c.turn.isLive generation = false

variable {config : Config}
variable {c : Crew}

theorem manned_fresh (config : Config) :
    (fresh config).Manned := by
  intro attempt generation hBegun
  contradiction

/- An attempt that is let go is out of date. -/
theorem isLive_of_not_isHeld
    (hGoverned : c.turn.Governed config)
    (hTeardowns : c.turn.teardowns < UInt64.size)
    {attempt : Nat}
    {generation : UInt64}
    (hBegun : c.turn.begun[attempt]? = some generation)
    (hHeld : c.isHeld attempt = false) :
    c.turn.isLive generation = false := by
  rw [Bool.eq_false_iff]
  intro hLive
  rw [Turn.isLive, Bool.and_eq_true] at hLive
  have hCurrent := (Effect.manual_of_isLive hLive.2).1
  have hActive : c.turn.client.link.phase.isActive = true := by
    apply (hGoverned.active_of_isIssued hTeardowns
      (Or.inl (Array.mem_of_getElem? hBegun))).2
    exact hCurrent.symm
  rcases Option.isSome_iff_exists.mp
    (hGoverned.sound.transport.mpr hActive) with ⟨held, hSome⟩
  have hSame : held = generation :=
    (hGoverned.sound.transportDate held hSome).trans hCurrent
  simp [isHeld, hBegun, hLive.1, hSome, hSame] at hHeld

/- A move of one attempt brings it closer to its end. -/
theorem ends_onward
    (hOrderly : c.turn.Orderly)
    (hGoverned : c.turn.Governed config)
    {attempt : Nat}
    {generation : UInt64}
    (hBegun : c.turn.begun[attempt]? = some generation)
    (hTeardowns :
      (c.move (.go attempt)).turn.teardowns < UInt64.size)
    (hEnds : (c.left attempt).ends = true) :
    (c.onward attempt).ends = true ∨
      (c.move (.go attempt)).turn.isLive generation = false := by
  simp only [move, turnMoves] at hTeardowns ⊢
  unfold onward
  cases hLeft : c.left attempt with
  | nil =>
      rw [hLeft] at hEnds
      contradiction
  | cons m rest =>
      rw [hLeft] at hEnds hTeardowns
      cases m with
      | report r =>
          by_cases hFree : c.turn.isFree = true
          · simp only [hFree, if_true] at hTeardowns ⊢
            cases r with
            | closed =>
                refine Or.inr ?_
                exact
                  Turn.isLive_of_closed hOrderly hGoverned hFree
                    hBegun hTeardowns
            | opened => exact Or.inl hEnds
            | event e => exact Or.inl hEnds
            | error e => exact Or.inl hEnds
          · simp only [if_neg hFree]
            exact Or.inl hEnds
      | check r =>
          by_cases hLive : c.isLive attempt = true
          · simp only [if_pos hLive]
            exact Or.inl hEnds
          · refine Or.inr ?_
            simp only [isLive, hBegun, Bool.not_eq_true] at hLive
            exact hLive
      | hold => exact Or.inl rfl
      | remark r => exact Or.inl hEnds
      | wait span => exact Or.inl hEnds

/- All but a beginning leaves those that have begun. -/
theorem begun_move
    (c : Crew)
    {m : Move}
    (hBegin : ∀ course, m ≠ .begin course) :
    (c.move m).turn.begun = c.turn.begun := by
  cases m with
  | turn m =>
      by_cases hSame : m = .begin
      · subst hSame
        rfl
      · have hOne : c.turnMoves (.turn m) = [m] := by
          cases m <;> first | rfl | contradiction
        simp only [move, hOne]
        exact Turn.begun_move_of_ne hSame
  | begin course => exact absurd rfl (hBegin course)
  | go attempt =>
      simp only [move, turnMoves]
      split
      · split
        · next r _ _ _ =>
            have hAct :
                (c.turn.move
                    (.act (.report attempt r))).begun =
                  c.turn.begun :=
              Turn.begun_move_of_ne Turn.Move.noConfusion
            exact (Turn.begun_step _).trans hAct
        · rfl
      · rfl
  | cut attempt => rfl

/- The attempt that begins is the one whose task is held. -/
theorem begun_move_begin
    (c : Crew)
    (course : Course)
    (hWaiting : c.isWaiting = true) :
    ∃ generation,
      c.turn.client.link.transport = some generation ∧
        (c.move (.begin course)).turn.begun =
          c.turn.begun.push generation := by
  have hMoves : c.turnMoves (.begin course) = [.begin] := by
    simp only [turnMoves, hWaiting, if_true]
  unfold isWaiting at hWaiting
  split at hWaiting
  · next generation hHeld =>
      rw [Bool.and_eq_true] at hWaiting
      refine ⟨generation, hHeld, ?_⟩
      simp [move, hMoves, Turn.move, Turn.beginAttempt, hHeld,
        hWaiting.1]
  · contradiction

/-
  Every move keeps the crew manned, as long as each course that
  begins has an end.
-/
theorem Manned.move
    (hOrderly : c.turn.Orderly)
    (hGoverned : c.turn.Governed config)
    (hManned : c.Manned)
    (m : Move)
    (hCourse :
      ∀ course, m = .begin course → course.ends = true)
    (hTeardowns : (c.move m).turn.teardowns < UInt64.size) :
    (c.move m).Manned := by
  have hLe : c.turn.teardowns ≤ (c.move m).turn.teardowns :=
    Turn.countP_milestones_le_follow hOrderly
      Remark.isTeardown _
  -- an attempt that moved nothing stays as it was
  have hKept :
      ∀ attempt generation,
        c.turn.begun[attempt]? = some generation →
          (c.move m).left attempt = c.left attempt →
            ((c.move m).left attempt).ends = true ∨
              (c.move m).turn.isLive generation = false := by
    intro attempt generation hBegun hLeft
    rw [hLeft]
    refine (hManned attempt generation hBegun).imp_right ?_
    exact
      Turn.isLive_follow hOrderly hGoverned _ hTeardowns
        (Or.inl (Array.mem_of_getElem? hBegun))
  intro other generation hBegun
  cases m with
  | turn m =>
      rw [c.begun_move fun _ => Move.noConfusion] at hBegun
      exact hKept other generation hBegun rfl
  | begin course =>
      by_cases hWaiting : c.isWaiting = true
      · rcases c.begun_move_begin course hWaiting with
          ⟨held, _, hPush⟩
        rw [hPush, Array.getElem?_push] at hBegun
        split at hBegun
        · next hNew =>
            refine Or.inl ?_
            simp only [Crew.move, leftAfter, hWaiting, if_true,
              hNew, Function.update_self]
            exact hCourse course rfl
        · next hOld =>
            apply hKept other generation hBegun
            simp only [Crew.move, leftAfter, hWaiting, if_true]
            exact Function.update_of_ne hOld _ _
      · have hMoves : c.turnMoves (.begin course) = [] := by
          simp only [turnMoves, if_neg hWaiting]
        simp only [Crew.move, hMoves, Turn.follow_nil] at hBegun
        apply hKept other generation hBegun
        simp [Crew.move, leftAfter, hWaiting]
  | go attempt =>
      rw [c.begun_move fun _ => Move.noConfusion] at hBegun
      by_cases hOther : other = attempt
      · subst hOther
        rcases hManned other generation hBegun with
          hEnds | hRetired
        · have hNext :=
            ends_onward hOrderly hGoverned hBegun hTeardowns
              hEnds
          simpa [Crew.move, leftAfter] using hNext
        · refine Or.inr ?_
          exact
            Turn.isLive_follow hOrderly hGoverned _ hTeardowns
              (Or.inl (Array.mem_of_getElem? hBegun)) hRetired
      · apply hKept other generation hBegun
        simp only [Crew.move, leftAfter]
        exact Function.update_of_ne hOther _ _
  | cut attempt =>
      rw [c.begun_move fun _ => Move.noConfusion] at hBegun
      by_cases hHeld : c.isHeld attempt = true
      · apply hKept other generation hBegun
        simp only [Crew.move, leftAfter, hHeld, if_true]
      · by_cases hOther : other = attempt
        · subst hOther
          refine Or.inr ?_
          exact
            isLive_of_not_isHeld hGoverned
              (Nat.lt_of_le_of_lt hLe hTeardowns) hBegun
              (Bool.eq_false_iff.mpr hHeld)
        · apply hKept other generation hBegun
          simp only [Crew.move, leftAfter, if_neg hHeld]
          exact Function.update_of_ne hOther _ _

------------------------------------------------------------
-- No Orphans
------------------------------------------------------------

theorem manned_follow
    (hOrderly : c.turn.Orderly)
    (hGoverned : c.turn.Governed config)
    (hManned : c.Manned)
    (moves : List Move)
    (hCourses :
      ∀ course, .begin course ∈ moves →
        course.IsBuiltIn config)
    (hTeardowns :
      (c.follow moves).turn.teardowns < UInt64.size) :
    (c.follow moves).Manned := by
  induction moves generalizing c with
  | nil => exact hManned
  | cons m moves ih =>
      have hOrderlyNext : (c.move m).turn.Orderly :=
        Turn.orderly_follow hOrderly _
      have hGovernedNext : (c.move m).turn.Governed config :=
        hGoverned.follow hOrderly _
      have hLe :
          (c.move m).turn.teardowns ≤
            ((c.move m).follow moves).turn.teardowns := by
        rw [turn_follow]
        exact
          Turn.countP_milestones_le_follow hOrderlyNext
            Remark.isTeardown _
      have hFirst :
          ∀ course, m = .begin course → course.ends = true := by
        intro course hBegin
        apply Course.IsBuiltIn.ends
        exact hCourses course (hBegin ▸ List.mem_cons_self)
      have hMannedNext :=
        hManned.move hOrderly hGoverned m hFirst
          (Nat.lt_of_le_of_lt hLe hTeardowns)
      exact
        ih hOrderlyNext hGovernedNext hMannedNext
          (fun course hMember =>
            hCourses course (List.mem_cons_of_mem m hMember))
          hTeardowns

/-
  Whether the attempt of a generation is still under way: it is
  about to begin, or it has begun and not returned.
-/
def IsRunning (c : Crew) (generation : UInt64) : Prop :=
  c.isWaiting = true ∨
    ∃ attempt,
      c.turn.begun[attempt]? = some generation ∧
        c.left attempt ≠ []

/-
  No connection is without an attempt that looks after it.  An
  attempt that has returned is out of date; and a client that
  is connecting or open holds the task of an attempt that has
  not returned.
-/
structure Unorphaned (c : Crew) : Prop where
  returned :
    ∀ attempt generation,
      c.turn.begun[attempt]? = some generation →
        c.left attempt = [] →
          c.turn.isLive generation = false
  attended :
    c.turn.alive = true →
      c.turn.client.link.phase.isActive = true →
        c.turn.client.link.transport =
            some c.turn.client.link.generation ∧
          c.IsRunning c.turn.client.link.generation

theorem Manned.isLive_of_returned
    (hManned : c.Manned)
    {attempt : Nat}
    {generation : UInt64}
    (hBegun : c.turn.begun[attempt]? = some generation)
    (hLeft : c.left attempt = []) :
    c.turn.isLive generation = false := by
  rcases hManned attempt generation hBegun with
    hEnds | hRetired
  · rw [hLeft] at hEnds
    contradiction
  · exact hRetired

theorem Manned.unorphaned
    (hManned : c.Manned)
    (hGoverned : c.turn.Governed config) :
    c.Unorphaned where
  returned _ _ hBegun hLeft :=
    hManned.isLive_of_returned hBegun hLeft
  attended := by
    intro hAlive hActive
    have hLive := hGoverned.isLive_link hActive
    rcases Option.isSome_iff_exists.mp
      (hGoverned.sound.transport.mpr hActive) with ⟨held, hHeld⟩
    have hSame := hGoverned.sound.transportDate held hHeld
    rw [hSame] at hHeld
    refine ⟨hHeld, ?_⟩
    by_cases hBegun :
        c.turn.begun.back? =
          some c.turn.client.link.generation
    · rw [Array.back?_eq_getElem?] at hBegun
      refine Or.inr ⟨c.turn.begun.size - 1, hBegun, ?_⟩
      intro hLeft
      have hRetired := hManned.isLive_of_returned hBegun hLeft
      simp [Turn.isLive, hAlive, hLive] at hRetired
    · refine Or.inl ?_
      simp [isWaiting, hHeld, hAlive, hBegun]

/-
  With the built-in transports no connection is orphaned,
  whatever handlers, timers and the program do meanwhile; and
  every attempt stays current until it is retired, by one
  report of its end, one alarm or one disconnect.
-/
theorem unorphaned_follow
    (config : Config)
    (moves : List Move)
    (hCourses :
      ∀ course, .begin course ∈ moves →
        course.IsBuiltIn config)
    (hTeardowns :
      ((fresh config).follow moves).turn.teardowns <
        UInt64.size) :
    ((fresh config).follow moves).Unorphaned ∧
      ∀ generation,
        ((fresh config).follow moves).turn.Recorded generation
          ((Turn.fresh config).retirements generation
            ((fresh config).trace moves)) := by
  have hManned :=
    manned_follow (Turn.orderly_fresh config)
      (Turn.governed_fresh config) (manned_fresh config) moves
      hCourses hTeardowns
  rw [turn_follow] at hTeardowns
  constructor
  · have hGoverned :
        ((fresh config).follow moves).turn.Governed config := by
      rw [turn_follow]
      exact Turn.governed_follow config _
    exact hManned.unorphaned hGoverned
  · intro generation
    rw [turn_follow]
    exact Turn.recorded_follow config _ hTeardowns generation

/-
  The body of a reply breaks off.  The handler of that error
  disconnects and connects again before the attempt reports
  its end.
-/
def breakage : List Move :=
  [.turn (.act (.register .error [[.disconnect, .connect]])),
    .turn .step, .turn (.act .connect), .turn .step,
    .begin
      (Attempt.authenticated (default : Url) ""
        (.answered ⟨200, none, [[]], .broken⟩)),
    .go 0, .turn .step, .go 0, .go 0, .go 0, .turn .step,
    .turn .step, .turn .step, .turn .step, .turn .step,
    .turn .step, .turn .step, .go 0]

/-
  After that the first attempt has returned and was retired by
  the disconnect, and the second one is about to begin.
-/
theorem unorphaned_follow_breakage :
    ∃ (config : Config) (c : Crew),
      config = { (default : Config) with credential := some "" } ∧
        c = (fresh config).follow breakage ∧
        c.turn.begun = #[1] ∧
        c.left 0 = [] ∧
        c.turn.client.link.phase = .connecting ∧
        c.Unorphaned ∧
        c.turn.Recorded 1 [.disconnected] := by
  refine
    ⟨_, _, rfl, rfl, by decide +kernel, by decide +kernel,
      by decide +kernel, ?_⟩
  have hCourses :
      ∀ course, .begin course ∈ breakage →
        course.IsBuiltIn
          { (default : Config) with credential := some "" } := by
    intro course hMember
    have hOne :
        course =
          Attempt.authenticated (default : Url) ""
            (.answered ⟨200, none, [[]], .broken⟩) := by
      simpa [breakage] using hMember
    rw [hOne]
    exact .authenticated "" _ rfl
  have hRetirements :
      (Turn.fresh
          { (default : Config) with
            credential := some "" }).retirements 1
          ((fresh
              { (default : Config) with
                credential := some "" }).trace breakage) =
        [.disconnected] := by
    decide +kernel
  have hBoth :=
    unorphaned_follow
      { (default : Config) with credential := some "" } breakage
      hCourses (by decide +kernel)
  rw [← hRetirements]
  exact ⟨hBoth.1, hBoth.2 1⟩

end Crew

end EventFeed
