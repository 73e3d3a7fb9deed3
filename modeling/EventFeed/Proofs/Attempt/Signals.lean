import EventFeed.Attempt.Source
import EventFeed.Proofs.Attempt.Response

/-
  This file says what a client is told of the signals of a
  native source, from end to end.

  A source is heeded up to its first terminal signal, and one
  that ends without any counts as closed.  Each frame and each
  error that is heeded leads to one call, in order; the first
  good sign is told of once, before any frame; and one notice
  answers the end.  An error that is not final ends nothing.

  Key definitions include:
    * `Signal.heeded`
    * `Signal.calls`
    * `Turn.Relayed`

  Key results include:
    * `Signal.told_course`
    * `Turn.Underway.unended`
    * `Turn.told_of_signals`
-/

------------------------------------------------------------
-- Signals Heeded
------------------------------------------------------------

namespace EventFeed

namespace Signal

/-
  Whether nothing follows the signal: it is terminal, or the
  source is silent for ever.
-/
def isLast (s : Signal) : Bool :=
  s.isTerminal || s == .hold

/- The signals up to the first that nothing follows. -/
def heeded : List Signal → List Signal
  | [] => []
  | s :: rest => if s.isLast then [s] else s :: heeded rest

/- Whether the signal is a sign that all is well. -/
def isGood : Signal → Bool
  | .opened => true
  | .frame _ => true
  | _ => false

/- Whether the signal tells something, and is no pause. -/
def isTold : Signal → Bool
  | .wait _ => false
  | .hold => false
  | _ => true

/- The call that a frame or an error leads to. -/
def callback? : Signal → Option Callback
  | .frame e => some e.callback
  | .error message _ => some (.error (.transport message))
  | _ => none

/-
  The calls that signals lead to: one for each frame and each
  error, and the news of the opening at the first good sign.
-/
def calls (signals : List Signal) : List Callback :=
  (signals.takeWhile fun s => !s.isGood).filterMap callback? ++
    ((if signals.any isGood then [.opened] else []) ++
      (signals.dropWhile fun s => !s.isGood).filterMap
        callback?)

variable {signals before after : List Signal}
variable {last : Signal}

theorem heeded_cons
    {s : Signal}
    (hOn : s.isLast = false)
    {rest : List Signal} :
    heeded (s :: rest) = s :: heeded rest := by
  simp [heeded, hOn]

/- Signals of which none is the last are all heeded. -/
theorem heeded_append
    (hOn : ∀ s ∈ before, s.isLast = false)
    (after : List Signal) :
    heeded (before ++ after) = before ++ heeded after := by
  induction before with
  | nil => rfl
  | cons s before ih =>
      rw [List.forall_mem_cons] at hOn
      rw [List.cons_append, heeded, hOn.1, ih hOn.2]
      rfl

theorem mem_of_mem_heeded
    {s : Signal}
    (hMember : s ∈ heeded signals) :
    s ∈ signals := by
  induction signals with
  | nil => exact hMember
  | cons first rest ih =>
      unfold heeded at hMember
      split at hMember
      · rw [List.mem_singleton.mp hMember]
        exact List.mem_cons_self
      · rcases List.mem_cons.mp hMember with rfl | hRest
        · exact List.mem_cons_self
        · exact List.mem_cons_of_mem _ (ih hRest)

/- Neither is anything played after a terminal signal. -/
theorem course_append_cons
    (before after : List Signal)
    (hTerminal : last.isTerminal = true) :
    course (before ++ last :: after) =
      course (before ++ [last]) := by
  induction before with
  | nil =>
      cases last with
      | error message final =>
          rw [isTerminal] at hTerminal
          rw [hTerminal]
          rfl
      | closed => rfl
      | _ => contradiction
  | cons s before ih =>
      rw [List.cons_append, List.cons_append]
      cases s with
      | error message final =>
          cases final with
          | true => rfl
          | false => simp only [course, ih]
      | closed => rfl
      | hold => rfl
      | _ => simp only [course, ih]

------------------------------------------------------------
-- Calls of Signals
------------------------------------------------------------

theorem calls_cons_of_good
    {s : Signal}
    (hGood : s.isGood = true)
    (rest : List Signal) :
    calls (s :: rest) =
      .opened :: (s :: rest).filterMap callback? := by
  simp [calls, hGood]

theorem calls_cons_of_not_good
    {s : Signal}
    (hGood : s.isGood = false)
    (rest : List Signal) :
    calls (s :: rest) = s.callback?.toList ++ calls rest := by
  have hFirst :
      ∀ more : List Signal,
        (s :: more).filterMap callback? =
          s.callback?.toList ++ more.filterMap callback? := by
    intro more
    cases hCall : s.callback? <;> simp [hCall]
  simp [calls, hGood, hFirst]

/- A signal that tells nothing may come last. -/
theorem calls_concat
    (signals : List Signal)
    {s : Signal}
    (hGood : s.isGood = false)
    (hCall : s.callback? = none) :
    calls (signals ++ [s]) = calls signals := by
  induction signals with
  | nil =>
      rw [List.nil_append, calls_cons_of_not_good hGood, hCall]
      rfl
  | cons first rest ih =>
      rw [List.cons_append]
      cases hFirst : first.isGood with
      | true =>
          rw [calls_cons_of_good hFirst,
            calls_cons_of_good hFirst, ← List.cons_append,
            List.filterMap_append]
          simp [hCall]
      | false =>
          rw [calls_cons_of_not_good hFirst,
            calls_cons_of_not_good hFirst, ih]

/- The call of a signal is no news of an opening. -/
theorem slot_of_callback?
    {s : Signal}
    {c : Callback}
    (hCall : s.callback? = some c) :
    c.slot = .error ∨
      s.isGood = true ∧ (c.slot = .message ∨ c.slot = .ping) := by
  cases s with
  | frame e =>
      obtain rfl := Option.some.inj hCall
      right
      unfold Event.callback
      cases e.isPing with
      | true => exact ⟨rfl, Or.inr rfl⟩
      | false => exact ⟨rfl, Or.inl rfl⟩
  | error message final =>
      obtain rfl := Option.some.inj hCall
      exact Or.inl rfl
  | _ => contradiction

theorem slot_ne_opened
    {c : Callback}
    (hMember : c ∈ signals.filterMap callback?) :
    c.slot ≠ .opened := by
  rcases List.mem_filterMap.mp hMember with ⟨s, _, hCall⟩
  rcases slot_of_callback? hCall with hSlot | ⟨_, hSlot | hSlot⟩
  all_goals
    rw [hSlot]
    decide

/- Frames and errors lead to one call each, in order. -/
theorem filter_calls (signals : List Signal) :
    (calls signals).filter (fun c => c.slot != .opened) =
      signals.filterMap callback? := by
  have hKept :
      ∀ more : List Signal,
        (more.filterMap callback?).filter
            (fun c => c.slot != .opened) =
          more.filterMap callback? := by
    intro more
    apply List.filter_eq_self.mpr
    intro c hMember
    simp [slot_ne_opened hMember]
  have hNews :
      (if signals.any isGood then [Callback.opened]
        else []).filter (fun c => c.slot != .opened) =
          [] := by
    split <;> rfl
  unfold calls
  rw [List.filter_append, List.filter_append, hKept, hKept,
    hNews, List.nil_append, ← List.filterMap_append,
    List.takeWhile_append_dropWhile]

/- The opening is told of once, if there is a good sign. -/
theorem countP_calls (signals : List Signal) :
    (calls signals).countP (fun c => c.slot == .opened) =
      if signals.any isGood then 1 else 0 := by
  have hNone :
      ∀ more : List Signal,
        (more.filterMap callback?).countP
            (fun c => c.slot == .opened) =
          0 := by
    intro more
    apply List.countP_eq_zero.mpr
    intro c hMember
    simpa using slot_ne_opened hMember
  unfold calls
  rw [List.countP_append, List.countP_append, hNone, hNone]
  split <;> rfl

/- The opening is told of before any frame. -/
theorem opened_mem_of_calls_eq
    {first later : List Callback}
    {c : Callback}
    (hCalls : calls signals = first ++ c :: later)
    (hFrame : c.slot = .message ∨ c.slot = .ping) :
    .opened ∈ first := by
  have hNotOpened : c ≠ .opened := by
    rintro rfl
    rcases hFrame with hSlot | hSlot <;> contradiction
  induction signals generalizing first with
  | nil => simp [calls] at hCalls
  | cons s rest ih =>
      cases hGood : s.isGood with
      | true =>
          rw [calls_cons_of_good hGood] at hCalls
          cases first with
          | nil =>
              have hHead := (List.cons.inj hCalls).1
              exact absurd hHead.symm hNotOpened
          | cons head first =>
              rw [(List.cons.inj hCalls).1]
              exact List.mem_cons_self
      | false =>
          rw [calls_cons_of_not_good hGood] at hCalls
          cases hCall : s.callback? with
          | none =>
              rw [hCall] at hCalls
              exact ih hCalls
          | some call =>
              rw [hCall] at hCalls
              cases first with
              | nil =>
                  have hHead := (List.cons.inj hCalls).1
                  rw [← hHead] at hFrame
                  rcases slot_of_callback? hCall with
                    hError | ⟨hGood', _⟩
                  · rw [hError] at hFrame
                    rcases hFrame with hSlot | hSlot <;>
                      contradiction
                  · rw [hGood] at hGood'
                    contradiction
              | cons head first =>
                  have hRest := (List.cons.inj hCalls).2
                  exact List.mem_cons_of_mem _ (ih hRest)

------------------------------------------------------------
-- What the Course of a Source Tells
------------------------------------------------------------

/- What signals tell. -/
def told (signals : List Signal) : Told :=
  ⟨calls signals, signals.any isGood, !signals.contains .hold⟩

/- Once the connection is open there is no more news of it. -/
theorem told_course_opened (signals : List Signal) :
    (course signals).told true =
      ⟨(heeded signals).filterMap callback?, true,
        !(heeded signals).contains .hold⟩ := by
  induction signals with
  | nil => rfl
  | cons s rest ih =>
      cases s with
      | closed => rfl
      | hold => rfl
      | error message final =>
          cases final with
          | true => rfl
          | false =>
              rw [heeded_cons rfl]
              simp only [course, checkpoint, Course.told, ih]
              rfl
      | _ =>
          rw [heeded_cons rfl]
          simp only [course, checkpoint, Course.told, ih]
          rfl

/-
  The course of a source tells what its signals do, as far as
  they are heeded.
-/
theorem told_course (signals : List Signal) :
    (course signals).told false = told (heeded signals) := by
  induction signals with
  | nil => rfl
  | cons s rest ih =>
      cases s with
      | closed => rfl
      | hold => rfl
      | opened =>
          rw [heeded_cons rfl, told, calls_cons_of_good rfl]
          simp only [course, checkpoint, Course.told,
            told_course_opened]
          rfl
      | frame e =>
          rw [heeded_cons rfl, told, calls_cons_of_good rfl]
          simp only [course, checkpoint, Course.told,
            told_course_opened]
          rfl
      | error message final =>
          cases final with
          | true => rfl
          | false =>
              rw [heeded_cons rfl, told,
                calls_cons_of_not_good rfl]
              simp only [course, checkpoint, Course.told, ih]
              rfl
      | wait span =>
          rw [heeded_cons rfl, told, calls_cons_of_not_good rfl]
          simp only [course, Course.told, ih]
          rfl

/- What a source told of that is silent from then on. -/
theorem told_course_hold
    {signals : List Signal}
    (hOn : ∀ s ∈ signals, s.isLast = false) :
    (course (signals ++ [.hold])).told false =
      ⟨calls signals, signals.any isGood, false⟩ := by
  have hHeeded :
      heeded (signals ++ [.hold]) = signals ++ [.hold] :=
    heeded_append hOn [.hold]
  have hCalls : calls (signals ++ [.hold]) = calls signals :=
    calls_concat signals rfl rfl
  rw [told_course, hHeeded, told, hCalls]
  simp [isGood]

/- Signals that are told pause nowhere. -/
theorem isPause_course
    (hTold : ∀ s ∈ signals, s.isTold = true) :
    ∀ m ∈ course signals, m.isPause = false := by
  induction signals with
  | nil => simp [course, Move.isPause]
  | cons s rest ih =>
      rw [List.forall_mem_cons] at hTold
      have hRest := ih hTold.2
      cases s with
      | error message final =>
          cases final with
          | true =>
              simp [course, checkpoint, Course.failure,
                Move.isPause]
          | false =>
              simpa [course, checkpoint, Move.isPause]
                using hRest
      | closed => simp [course, checkpoint, Move.isPause]
      | opened =>
          simpa [course, checkpoint, Move.isPause] using hRest
      | frame e =>
          simpa [course, checkpoint, Move.isPause] using hRest
      | wait span => cases hTold.1
      | hold => cases hTold.1

end Signal

end EventFeed

------------------------------------------------------------
-- Signals End to End
------------------------------------------------------------

namespace EventFeed

namespace Turn

variable {t t' t'' : Turn}
variable {attempt : Nat}
variable {generation : UInt64}
variable {opened : Bool}

/- An attempt whose course does not end it stays under way. -/
theorem Underway.unended
    (hUnderway : t.Underway attempt generation opened)
    {course : Course}
    (hEnds : (course.told opened).ends = false) :
    (t.pursue attempt generation course).Underway attempt
      generation (course.told opened).opens := by
  induction course generalizing t opened with
  | nil => exact hUnderway
  | cons m rest ih =>
      cases m with
      | report r =>
          by_cases hEnd : r = .closed
          · rw [hEnd] at hEnds
            contradiction
          · rcases hUnderway.report r hEnd with
              ⟨opened', calls, hTold, hNext, _⟩
            rw [hTold] at hEnds ⊢
            exact ih hNext hEnds
      | remark r =>
          have hNext :
              Underway { t with seen := .remark r :: t.seen }
                attempt generation opened :=
            ⟨hUnderway.alive, hUnderway.handlers,
              hUnderway.begun, hUnderway.live, hUnderway.phase,
              hUnderway.fresh⟩
          exact ih hNext hEnds
      | check r =>
          unfold Turn.pursue
          rw [hUnderway.isLive]
          exact ih hUnderway hEnds
      | wait span =>
          have hNext :
              Underway { t with now := t.now + span } attempt
                generation opened :=
            ⟨hUnderway.alive, hUnderway.handlers,
              hUnderway.begun, hUnderway.live, hUnderway.phase,
              hUnderway.fresh⟩
          exact ih hNext hEnds
      | hold => exact hUnderway

/-
  What becomes of a client when signals have come to its
  attempt, and the attempt is over.
-/
structure Relayed
    (t : Turn)
    (signals : List Signal)
    (calls : List Callback)
    (notice : Notice)
    (t' : Turn) : Prop where
  callbacks :
    t'.callbacks = t.callbacks ++ (calls ++ [notice.callback])
  each :
    calls.filter (fun c => c.slot != .opened) =
      signals.filterMap Signal.callback?
  once :
    calls.countP (fun c => c.slot == .opened) =
      if signals.any Signal.isGood then 1 else 0
  first :
    ∀ before c after, calls = before ++ c :: after →
      c.slot = .message ∨ c.slot = .ping → .opened ∈ before
  answer :
    notice = .closed ∨ ∃ attempts, notice = .reconnecting attempts
  ended : t'.client.link.phase.isActive = false

/- A link as the answer to a failure says is not active. -/
theorem isActive_of_heeds
    {l : Link}
    {config : Config}
    {attempts : UInt32}
    (hHeeds : l.Heeds (config.answer attempts)) :
    l.phase.isActive = false := by
  unfold Config.answer at hHeeds
  split at hHeeds
  · rw [hHeeds.1]
    rfl
  · have hClosed : l.phase = .closed := hHeeds
    rw [hClosed]
    rfl

/- The answer to a failure is one of two notices. -/
theorem answer_cases
    (config : Config)
    (attempts : UInt32) :
    config.answer attempts = .closed ∨
      ∃ next, config.answer attempts = .reconnecting next := by
  unfold Config.answer
  split
  · exact Or.inr ⟨_, rfl⟩
  · exact Or.inl rfl

/- An attempt that told what signals do has relayed them. -/
theorem Concluded.relayed
    {signals : List Signal}
    (hConcluded : t.Concluded (Signal.told signals) t')
    (hHold : .hold ∉ signals) :
    t.Relayed signals (Signal.calls signals)
      (t.client.config.answer
        (if signals.any Signal.isGood then 0
          else t.client.link.attempts))
      t' := by
  have hEnds : (Signal.told signals).ends = true := by
    simpa [Signal.told] using hHold
  constructor
  · rw [hConcluded.callbacks, Told.callbacks, if_pos hEnds]
    rfl
  · exact Signal.filter_calls signals
  · exact Signal.countP_calls signals
  · intro before c after
    exact Signal.opened_mem_of_calls_eq
  · exact answer_cases _ _
  · exact isActive_of_heeds (hConcluded.ended hEnds)

/- The signals of a source come to an attempt under way. -/
theorem Underway.relayed
    (hUnderway : t.Underway attempt generation false)
    {signals : List Signal}
    (hHold : .hold ∉ signals) :
    t.Relayed (Signal.heeded signals)
      (Signal.calls (Signal.heeded signals))
      (t.client.config.answer
        (if (Signal.heeded signals).any Signal.isGood then 0
          else t.client.link.attempts))
      (t.pursue attempt generation (Signal.course signals)) := by
  have hConcluded := hUnderway.pursue (Signal.course signals)
  rw [Signal.told_course] at hConcluded
  apply hConcluded.relayed
  intro hMember
  exact hHold (Signal.mem_of_mem_heeded hMember)

/- What was relayed does not depend on answers and remarks. -/
theorem Relayed.of_alike
    {signals : List Signal}
    {calls : List Callback}
    {notice : Notice}
    (hRelayed : t.Relayed signals calls notice t')
    {keep : Remark → Bool}
    (hAlike : t'.Alike keep t'') :
    t.Relayed signals calls notice t'' := by
  refine
    ⟨?_, hRelayed.each, hRelayed.once, hRelayed.first,
      hRelayed.answer, ?_⟩
  · rw [← hAlike.callbacks]
    exact hRelayed.callbacks
  · rw [hAlike.client]
    exact hRelayed.ended

/- An end that is not announced is as good as any. -/
theorem Underway.unannounced
    (hUnderway : t.Underway attempt generation false)
    {signals : List Signal}
    (hOn : ∀ s ∈ signals, s.isLast = false) :
    (t.pursue attempt generation
        (Signal.course signals)).callbacks =
      (t.pursue attempt generation
        (Signal.course (signals ++ [.closed]))).callbacks := by
  have hHold : .hold ∉ signals := by
    intro hMember
    cases hOn _ hMember
  have hHeeded : Signal.heeded signals = signals := by
    simpa [Signal.heeded] using Signal.heeded_append hOn []
  have hClosed :
      Signal.heeded (signals ++ [.closed]) =
        signals ++ [.closed] :=
    Signal.heeded_append hOn [.closed]
  rw [(hUnderway.relayed hHold).callbacks,
    (hUnderway.relayed (by simpa using hHold)).callbacks,
    hHeeded, hClosed, Signal.calls_concat signals rfl rfl]
  simp [Signal.isGood]

/- Until its source closes an attempt goes on. -/
theorem Underway.ongoing
    (hUnderway : t.Underway attempt generation false)
    {signals : List Signal}
    (hOn : ∀ s ∈ signals, s.isLast = false) :
    (t.pursue attempt generation
        (Signal.course (signals ++ [.hold]))).Underway attempt
      generation (signals.any Signal.isGood) := by
  have hTold := Signal.told_course_hold hOn
  have hEnds :
      ((Signal.course (signals ++ [.hold])).told false).ends =
        false := by
    rw [hTold]
  have hNext := hUnderway.unended hEnds
  rw [hTold] at hNext
  exact hNext

/- And it has told what there was to tell. -/
theorem Underway.callbacks_ongoing
    (hUnderway : t.Underway attempt generation false)
    {signals : List Signal}
    (hOn : ∀ s ∈ signals, s.isLast = false) :
    (t.pursue attempt generation
        (Signal.course (signals ++ [.hold]))).callbacks =
      t.callbacks ++ Signal.calls signals := by
  rw [(hUnderway.pursue _).callbacks,
    Signal.told_course_hold hOn]
  simp [Told.callbacks]

/-
  A source tells a client that connects of its signals, and
  the client's attempt is under way.  Up to the first terminal
  signal each frame and each error leads to one call, in order,
  and the first good sign to the news of the opening, before
  any frame; then one notice follows.  So it is in a session
  while the handle is held.  What comes after the first
  terminal signal has no effect; without any it is as if the
  source had closed; and as long as none comes, the attempt
  goes on, whatever errors there are.
-/
theorem told_of_signals
    (config : Config)
    (moves : List Move)
    (attempt : Nat)
    (generation : UInt64)
    (hReached : t = (fresh config).follow moves)
    (hAlive : t.alive = true)
    (hCalm : t.client.handlers.Calm)
    (hPhase : t.client.link.phase = .connecting)
    (hBegun : t.begun[attempt]? = some generation)
    (hLive : t.client.link.isLive generation = true) :
    (∀ signals, .hold ∉ signals →
        t.Relayed (Signal.heeded signals)
          (Signal.calls (Signal.heeded signals))
          (config.answer
            (if (Signal.heeded signals).any Signal.isGood then 0
              else t.client.link.attempts))
          (t.pursue attempt generation
            (Signal.course signals))) ∧
      (∀ (s : Session) signals, s.asTurn = t →
        (∀ signal ∈ signals, Signal.isTold signal = true) →
        (t.pursue attempt generation
            (Signal.course signals)).held = true →
          t.Relayed (Signal.heeded signals)
            (Signal.calls (Signal.heeded signals))
            (config.answer
              (if (Signal.heeded signals).any Signal.isGood then
                0
              else t.client.link.attempts))
            (s.play attempt generation
              (Signal.course signals)).asTurn) ∧
      (∀ before last after, Signal.isTerminal last = true →
        t.pursue attempt generation
            (Signal.course (before ++ last :: after)) =
          t.pursue attempt generation
            (Signal.course (before ++ [last]))) ∧
      ∀ signals,
        (∀ signal ∈ signals, Signal.isLast signal = false) →
          (t.pursue attempt generation
                (Signal.course signals)).callbacks =
              (t.pursue attempt generation
                (Signal.course (signals ++ [.closed]))).callbacks ∧
            (t.pursue attempt generation
                (Signal.course (signals ++ [.hold]))).Underway
              attempt generation (signals.any Signal.isGood) ∧
            (t.pursue attempt generation
                (Signal.course (signals ++ [.hold]))).callbacks =
              t.callbacks ++ Signal.calls signals := by
  have hConfig : t.client.config = config :=
    (governed_of_reached hReached).2.configured
  have hUnderway : t.Underway attempt generation false :=
    ⟨hAlive, hCalm, hBegun, hLive, hPhase, by simp⟩
  subst hConfig
  refine ⟨?_, ?_, ?_, ?_⟩
  · intro signals hHold
    exact hUnderway.relayed hHold
  · intro s signals hTurn hTold hHeld
    subst hTurn
    have hPlay :=
      s.alike_play hAlive (Signal.isPause_course hTold) hHeld
    have hHold : .hold ∉ signals := by
      intro hMember
      cases hTold _ hMember
    exact (hUnderway.relayed hHold).of_alike hPlay
  · intro before last after hTerminal
    rw [Signal.course_append_cons before after hTerminal]
  · intro signals hOn
    exact
      ⟨hUnderway.unannounced hOn, hUnderway.ongoing hOn,
        hUnderway.callbacks_ongoing hOn⟩

/-
  The handler of pings fails.  An error comes before the
  connection opens with a ping, and what follows the error
  that is final is not heeded.
-/
theorem told_of_signals_past_end :
    ∃ (config : Config) (t : Turn),
      config =
          { (default : Config) with autoReconnect := true } ∧
        t =
          (fresh config).follow
            [.act (.register .ping [[.panic]]), .step,
              .act .connect, .step, .begin] ∧
        ((t.pursue 0 1
            (Signal.course
              [.error "early" false, .frame (.ping ""), .opened,
                .wait 1, .frame (.message "{}"),
                .error "late" true, .opened,
                .frame (.message "unheard")])).callbacks.map
            Callback.slot) =
          [.error, .opened, .ping, .message, .error,
            .reconnecting] := by
  have hEmpty : (Registry.empty : Registry Handler).Calm := by
    intro slot handler hGet
    cases slot <;> contradiction
  have hCalm :
      ((Registry.empty : Registry Handler).register .ping
        [[.panic]]).Calm :=
    hEmpty.register .ping rfl
  have hTold :=
    told_of_signals
      { (default : Config) with autoReconnect := true }
      [.act (.register .ping [[.panic]]), .step, .act .connect,
        .step, .begin]
      0 1 rfl rfl hCalm rfl rfl rfl
  refine ⟨_, _, rfl, rfl, ?_⟩
  rw [(hTold.1 _ (by decide)).callbacks]
  decide +kernel

end Turn

end EventFeed
