import EventFeed.Client.Keepalive

/-
  This file gives the law of the watch for silence: which of
  its resets go off, when, and with which token.

  A vigil is a watch on a clock that runs one millisecond at
  a time, and at each of them the alarm goes off if it is
  due.  The alarm of a reset is settled by what comes right
  after it: it goes off as soon as the window has passed with
  nothing else happening, and never otherwise.  So the law is
  told in terms of the moves alone, and it is kept move by
  move together with where the alarm stands.

  Key definitions include:
    * `Keepalive.Vigil`
    * `Keepalive.Vigil.wait`
    * `Keepalive.Armed`
    * `Keepalive.Over`
    * `Keepalive.Rings`
    * `Keepalive.Posture`
    * `Keepalive.Kept`

  Key results include:
    * `Keepalive.Vigil.wait_add`
    * `Keepalive.Vigil.wait_of_due?`
    * `Keepalive.Kept.move`
    * `Keepalive.vigilant_follow`
-/

------------------------------------------------------------
-- Watches on a Clock
------------------------------------------------------------

namespace EventFeed

namespace Keepalive

/- What can happen to a watch: its owner acts, or time passes. -/
inductive Move
  | reset
  | stop
  | drop
  | pass (span : Nat)
deriving DecidableEq, Repr

namespace Move

def isPass : Move → Bool
  | .pass _ => true
  | _ => false

def span : Move → Nat
  | .pass span => span
  | _ => 0

end Move

/- The time that passes in the course of moves. -/
def elapsed : List Move → Nat
  | [] => 0
  | m :: moves => m.span + elapsed moves

/-
  A watch on a clock: whether its owner has dropped it, and
  the tokens that went off with their instants.
-/
structure Vigil where
  now : Nat
  watch : Keepalive
  gone : Bool
  rung : List (UInt64 × Nat)
deriving DecidableEq, Repr

namespace Vigil

def new (window : Nat) : Vigil :=
  ⟨0, Keepalive.new window, false, []⟩

/- Let the alarm go off if it is due by now. -/
def look (v : Vigil) : Vigil :=
  let seen := v.watch.ring? v.now
  { v with
    watch := seen.1
    rung :=
      v.rung ++ seen.2.toList.map fun token => (token, v.now) }

/- Let the clock run on, millisecond by millisecond. -/
def wait : Nat → Vigil → Vigil
  | 0, v => v.look
  | span + 1, v => wait span { v.look with now := v.now + 1 }

/- Start a fresh window now. -/
def reset (v : Vigil) : Vigil :=
  { v with watch := v.watch.reset v.now }

/- A watch that was dropped cannot be reset. -/
def act (v : Vigil) : Move → Vigil
  | .reset => if v.gone then v else v.reset
  | .stop => { v with watch := v.watch.stop }
  | .drop => { v with watch := v.watch.stop, gone := true }
  | .pass span => v.wait span

/-
  One move.  If alarms are prompt, one that is due goes off
  before the next move; otherwise it waits for the clock, and
  the owner may act first.
-/
def move (prompt : Bool) (v : Vigil) (m : Move) : Vigil :=
  if prompt then (v.act m).look else v.act m

def follow
    (prompt : Bool)
    (v : Vigil)
    (moves : List Move) : Vigil :=
  moves.foldl (move prompt) v

end Vigil

end Keepalive

end EventFeed

------------------------------------------------------------
-- The Course of the Clock
------------------------------------------------------------

namespace EventFeed

namespace Keepalive

variable {k : Keepalive}
variable {now due : Nat}

theorem ring?_of_due?_eq_none
    (hDue : k.due? = none) :
    k.ring? now = (k, none) := by
  rw [ring?, hDue]

theorem ring?_of_lt
    (hDue : k.due? = some due)
    (hAhead : now < due) :
    k.ring? now = (k, none) := by
  rw [ring?, hDue]
  dsimp only
  rw [if_neg (Nat.not_le.mpr hAhead)]

theorem ring?_of_le
    (hDue : k.due? = some due)
    (hPast : due ≤ now) :
    k.ring? now = (k.ring, some k.token) := by
  rw [ring?, hDue]
  dsimp only
  rw [if_pos hPast]

/- An alarm goes off once. -/
theorem due?_ring (k : Keepalive) : k.ring.due? = none := by
  rcases k with ⟨window, token, alarm⟩
  cases alarm with
  | none => rfl
  | some alarm => cases alarm <;> rfl

namespace Vigil

variable {v : Vigil}

theorem look_of_due?_eq_none
    (hDue : v.watch.due? = none) :
    v.look = v := by
  unfold look
  rw [ring?_of_due?_eq_none hDue]
  simp

theorem look_of_lt
    (hDue : v.watch.due? = some due)
    (hAhead : v.now < due) :
    v.look = v := by
  unfold look
  rw [ring?_of_lt hDue hAhead]
  simp

theorem look_of_le
    (hDue : v.watch.due? = some due)
    (hPast : due ≤ v.now) :
    v.look =
      { v with
        watch := v.watch.ring
        rung := v.rung ++ [(v.watch.token, v.now)] } := by
  unfold look
  rw [ring?_of_le hDue hPast]
  rfl

/- To look again finds nothing new. -/
theorem look_look (v : Vigil) : v.look.look = v.look := by
  cases hDue : v.watch.due? with
  | none =>
      have hSame := look_of_due?_eq_none hDue
      rw [hSame, hSame]
  | some due =>
      by_cases hPast : due ≤ v.now
      · rw [look_of_le hDue hPast]
        exact look_of_due?_eq_none (due?_ring v.watch)
      · rw [Nat.not_le] at hPast
        rw [look_of_lt hDue hPast, look_of_lt hDue hPast]

theorem wait_look (v : Vigil) (span : Nat) :
    v.look.wait span = v.wait span := by
  cases span with
  | zero => exact look_look v
  | succ span =>
      rw [wait, wait, look_look]
      rfl

theorem look_wait (v : Vigil) (span : Nat) :
    (v.wait span).look = v.wait span := by
  induction span generalizing v with
  | zero => exact look_look v
  | succ span ih => exact ih _

/- Time passes in one go as it does in two. -/
theorem wait_add (v : Vigil) (a b : Nat) :
    v.wait (a + b) = (v.wait a).wait b := by
  induction a generalizing v with
  | zero =>
      rw [Nat.zero_add, wait]
      exact (wait_look v b).symm
  | succ a ih =>
      have hSpan : a + 1 + b = (a + b) + 1 := by omega
      rw [hSpan, wait, wait]
      exact ih _

theorem wait_of_due?_eq_none
    (hDue : v.watch.due? = none)
    (span : Nat) :
    v.wait span = { v with now := v.now + span } := by
  induction span generalizing v with
  | zero => exact look_of_due?_eq_none hDue
  | succ span ih =>
      have hRest :=
        ih (v := { v with now := v.now + 1 }) hDue
      rw [wait, look_of_due?_eq_none hDue, hRest]
      simp only [Nat.add_assoc, Nat.add_comm 1]

theorem wait_of_lt
    (hDue : v.watch.due? = some due)
    {span : Nat}
    (hAhead : v.now + span < due) :
    v.wait span = { v with now := v.now + span } := by
  induction span generalizing v with
  | zero => exact look_of_lt hDue hAhead
  | succ span ih =>
      have hNow : v.now < due := by omega
      have hRest : v.now + 1 + span < due := by omega
      have hRest :=
        ih (v := { v with now := v.now + 1 }) hDue hRest
      rw [wait, look_of_lt hDue hNow, hRest]
      simp only [Nat.add_assoc, Nat.add_comm 1]

/- The clock cannot pass over the instant of an alarm. -/
theorem wait_of_le
    (hDue : v.watch.due? = some due)
    (hAhead : v.now ≤ due)
    {span : Nat}
    (hPast : due ≤ v.now + span) :
    v.wait span =
      { v with
        now := v.now + span
        watch := v.watch.ring
        rung := v.rung ++ [(v.watch.token, due)] } := by
  induction span generalizing v with
  | zero =>
      have hNow : v.now = due := by omega
      rw [wait, look_of_le hDue hPast, ← hNow]
      rfl
  | succ span ih =>
      rw [wait]
      by_cases hNow : v.now = due
      · rw [look_of_le hDue (Nat.le_of_eq hNow.symm),
          wait_of_due?_eq_none (due?_ring v.watch), ← hNow]
        dsimp only
        rw [Nat.add_assoc, Nat.add_comm 1]
      · have hLater : v.now < due := by omega
        have hRest : due ≤ v.now + 1 + span := by omega
        have hRest :=
          ih (v := { v with now := v.now + 1 }) hDue hLater
            hRest
        rw [look_of_lt hDue hLater, hRest]
        simp only [Nat.add_assoc, Nat.add_comm 1]

/- A move after which no alarm waits needs no look. -/
theorem move_of_due?_eq_none
    {prompt : Bool}
    {m : Move}
    (hDue : (v.act m).watch.due? = none) :
    v.move prompt m = v.act m := by
  rw [move, look_of_due?_eq_none hDue, ite_self]

theorem move_pass
    (prompt : Bool)
    (v : Vigil)
    (span : Nat) :
    v.move prompt (.pass span) = v.wait span := by
  rw [move, act, look_wait, ite_self]

theorem follow_append
    (prompt : Bool)
    (v : Vigil)
    (a b : List Move) :
    v.follow prompt (a ++ b) =
      (v.follow prompt a).follow prompt b :=
  List.foldl_append

/- A watch with no alarm stays silent until it is reset. -/
theorem rung_follow_of_alarm_eq_none
    {prompt : Bool}
    {moves : List Move}
    (hAlarm : v.watch.alarm = none)
    (hReset : v.gone = true ∨ .reset ∉ moves) :
    (v.follow prompt moves).rung = v.rung := by
  induction moves generalizing v with
  | nil => rfl
  | cons m moves ih =>
      have hDue : v.watch.due? = none := by rw [due?, hAlarm]
      have hRest : v.gone = true ∨ .reset ∉ moves :=
        hReset.imp_right fun hNone hMem =>
          hNone (List.mem_cons_of_mem m hMem)
      change ((v.move prompt m).follow prompt moves).rung = v.rung
      cases m with
      | reset =>
          have hGone : v.gone = true := by
            rcases hReset with hGone | hNone
            · exact hGone
            · exact absurd (List.mem_cons_self) hNone
          have hAct : v.act .reset = v := by
            rw [act, if_pos hGone]
          rw [move_of_due?_eq_none (by rw [hAct, hDue]), hAct]
          exact ih hAlarm hRest
      | stop =>
          rw [move_of_due?_eq_none rfl]
          exact ih rfl hRest
      | drop =>
          rw [move_of_due?_eq_none rfl]
          exact ih rfl (.inl rfl)
      | pass span =>
          rw [move_pass, wait_of_due?_eq_none hDue]
          exact ih hAlarm hRest

end Vigil

end Keepalive

end EventFeed

------------------------------------------------------------
-- Resets and What Comes after Them
------------------------------------------------------------

namespace EventFeed

namespace Keepalive

/-
  The moves end with a reset of a watch that was not dropped,
  and after it with nothing but time.
-/
structure Armed (moves before calm : List Move) : Prop where
  moves_eq : moves = before ++ .reset :: calm
  kept : .drop ∉ before
  calm : ∀ m ∈ calm, m.isPass = true

/-
  The window of the latest reset is over: its token, and the
  instant it ended.  If alarms are not prompt, the clock must
  have been let run.
-/
def Over
    (prompt : Bool)
    (window : Nat)
    (moves : List Move)
    (token : UInt64)
    (instant : Nat) : Prop :=
  ∃ before calm,
    Armed moves before calm ∧
      (prompt = true ∨ calm ≠ []) ∧
      window ≤ elapsed calm ∧
      instant = elapsed before + window ∧
      token.toNat = before.count .reset + 1

/- At some point of the moves a window was just over. -/
def Rings
    (prompt : Bool)
    (window : Nat)
    (moves : List Move)
    (token : UInt64)
    (instant : Nat) : Prop :=
  ∃ seen, seen <+: moves ∧ Over prompt window seen token instant

theorem elapsed_append (a b : List Move) :
    elapsed (a ++ b) = elapsed a + elapsed b := by
  induction a with
  | nil => exact (Nat.zero_add _).symm
  | cons m a ih =>
      rw [List.cons_append, elapsed, ih, elapsed, Nat.add_assoc]

variable {moves before calm : List Move}

/- Nothing but time comes among moves that only let it pass. -/
theorem notMem_of_isPass
    {m : Move}
    (hMove : m.isPass = false)
    (hCalm : ∀ m ∈ calm, m.isPass = true) :
    m ∉ calm := by
  intro hMember
  exact
    Bool.false_ne_true (hMove.symm.trans (hCalm m hMember))

namespace Armed

theorem drop_notMem
    (hArmed : Armed moves before calm) :
    .drop ∉ moves := by
  rw [hArmed.moves_eq, List.mem_append, List.mem_cons, not_or,
    not_or]
  exact
    ⟨hArmed.kept, by simp, notMem_of_isPass rfl hArmed.calm⟩

theorem count_eq
    (hArmed : Armed moves before calm) :
    moves.count .reset = before.count .reset + 1 := by
  have hCalm : calm.count .reset = 0 :=
    List.count_eq_zero_of_not_mem
      (notMem_of_isPass rfl hArmed.calm)
  rw [hArmed.moves_eq, List.count_append, List.count_cons_self,
    hCalm]

theorem elapsed_eq
    (hArmed : Armed moves before calm) :
    elapsed moves = elapsed before + elapsed calm := by
  rw [hArmed.moves_eq, elapsed_append]
  simp [elapsed, Move.span]

/- The latest reset is the only one that time alone follows. -/
theorem unique
    {before' calm' : List Move}
    (hArmed : Armed moves before calm)
    (hArmed' : Armed moves before' calm') :
    before = before' ∧ calm = calm' := by
  have hMoves :=
    hArmed.moves_eq.symm.trans hArmed'.moves_eq
  rcases List.append_eq_append_iff.mp hMoves with
    ⟨between, hBefore, hCalm⟩ | ⟨between, hBefore, hCalm⟩
  · cases between with
    | nil => simp_all
    | cons m between =>
        have hReset : .reset ∈ calm := by
          simp_all
        exact absurd hReset (notMem_of_isPass rfl hArmed.calm)
  · cases between with
    | nil => simp_all
    | cons m between =>
        have hReset : .reset ∈ calm' := by
          simp_all
        exact absurd hReset (notMem_of_isPass rfl hArmed'.calm)

end Armed

namespace Armed

/- A reset is the latest one when it is made. -/
theorem reset
    (hKept : .drop ∉ moves) :
    Armed (moves ++ [.reset]) moves [] :=
  ⟨rfl, hKept, by simp⟩

/- And it stays so while time passes. -/
theorem pass
    (hArmed : Armed moves before calm)
    (span : Nat) :
    Armed (moves ++ [.pass span]) before
      (calm ++ [.pass span]) where
  moves_eq := by rw [hArmed.moves_eq]; simp
  kept := hArmed.kept
  calm m hMem := by
    rcases List.mem_append.mp hMem with hOld | hNew
    · exact hArmed.calm m hOld
    · rw [List.mem_singleton.mp hNew]
      rfl

/- There is no other way for a reset to be the latest one. -/
theorem concat_cases
    {m : Move}
    (hArmed : Armed (moves ++ [m]) before calm) :
    (m = .reset ∧ before = moves ∧ calm = []) ∨
      ∃ span seen,
        m = .pass span ∧ calm = seen ++ [m] ∧
          Armed moves before seen := by
  have hMoves := hArmed.moves_eq
  rcases List.eq_nil_or_concat calm with hNil | ⟨seen, last, hCalm⟩
  · rw [hNil] at hMoves
    obtain ⟨hBefore, hLast⟩ := List.append_inj' hMoves rfl
    obtain ⟨hReset, _⟩ := List.cons_eq_cons.mp hLast
    exact .inl ⟨hReset, hBefore.symm, hNil⟩
  · rw [List.concat_eq_append] at hCalm
    rw [hCalm, ← List.cons_append, ← List.append_assoc] at hMoves
    obtain ⟨hSeen, hLast⟩ := List.append_inj' hMoves rfl
    obtain ⟨rfl, _⟩ := List.cons_eq_cons.mp hLast
    have hPass : m.isPass = true :=
      hArmed.calm m (by simp [hCalm])
    have hArmed' : Armed moves before seen :=
      ⟨hSeen, hArmed.kept, fun x hMem =>
        hArmed.calm x (by simp [hCalm, hMem])⟩
    cases m with
    | pass span => exact .inr ⟨span, seen, rfl, hCalm, hArmed'⟩
    | reset => exact absurd hPass Bool.false_ne_true
    | stop => exact absurd hPass Bool.false_ne_true
    | drop => exact absurd hPass Bool.false_ne_true

end Armed

/- What is over is the window of one token, at one instant. -/
theorem Over.unique
    {prompt : Bool}
    {window : Nat}
    {token token' : UInt64}
    {instant instant' : Nat}
    (hOver : Over prompt window moves token instant)
    (hOver' : Over prompt window moves token' instant') :
    token = token' ∧ instant = instant' := by
  obtain ⟨before, calm, hArmed, _, _, hInstant, hToken⟩ := hOver
  obtain ⟨before', calm', hArmed', _, _, hInstant', hToken'⟩ :=
    hOver'
  obtain ⟨rfl, rfl⟩ := hArmed.unique hArmed'
  exact
    ⟨UInt64.toNat_inj.mp (hToken.trans hToken'.symm),
      hInstant.trans hInstant'.symm⟩

theorem rings_concat_iff
    {prompt : Bool}
    {window : Nat}
    {m : Move}
    {token : UInt64}
    {instant : Nat} :
    Rings prompt window (moves ++ [m]) token instant ↔
      Rings prompt window moves token instant ∨
        Over prompt window (moves ++ [m]) token instant := by
  constructor
  · rintro ⟨seen, hPrefix, hOver⟩
    rcases List.prefix_concat_iff.mp hPrefix with rfl | hBefore
    · exact .inr hOver
    · exact .inl ⟨seen, hBefore, hOver⟩
  · rintro (⟨seen, hPrefix, hOver⟩ | hOver)
    · exact
        ⟨seen, hPrefix.trans (List.prefix_append moves [m]),
          hOver⟩
    · exact ⟨moves ++ [m], List.prefix_refl _, hOver⟩

end Keepalive

end EventFeed

------------------------------------------------------------
-- Where the Alarm Stands
------------------------------------------------------------

namespace EventFeed

namespace Keepalive

/- Where the alarm stands, in terms of the moves. -/
inductive Posture
    (prompt : Bool)
    (window : Nat)
    (moves : List Move) : Option Alarm → Prop
  | off
      (hOff : ∀ before calm, ¬ Armed moves before calm) :
      Posture prompt window moves none
  | waiting
      {before calm : List Move}
      (hArmed : Armed moves before calm)
      (hAhead :
        elapsed calm < window ∨ (prompt = false ∧ calm = [])) :
      Posture prompt window moves
        (some (.waiting (elapsed before + window)))
  | rung
      {before calm : List Move}
      (hArmed : Armed moves before calm)
      (hLooked : prompt = true ∨ calm ≠ [])
      (hOver : window ≤ elapsed calm) :
      Posture prompt window moves (some .rung)

/- What holds of a watch after moves. -/
structure Placed
    (prompt : Bool)
    (window : Nat)
    (moves : List Move)
    (v : Vigil) : Prop where
  now : v.now = elapsed moves
  span : v.watch.window = window
  gone : v.gone = true ↔ .drop ∈ moves
  token :
    .drop ∉ moves → v.watch.token.toNat = moves.count .reset
  posture : Posture prompt window moves v.watch.alarm

/- How many tokens have gone off or will not any more. -/
def spent (k : Keepalive) : Nat :=
  match k.due? with
  | some _ => k.token.toNat - 1
  | none => k.token.toNat

/- And what holds of the tokens that have gone off. -/
structure Kept
    (prompt : Bool)
    (window : Nat)
    (moves : List Move)
    (v : Vigil) : Prop where
  placed : Placed prompt window moves v
  rung :
    ∀ token instant,
      (token, instant) ∈ v.rung ↔
        Rings prompt window moves token instant
  order :
    v.rung.Pairwise fun r r' => r.1.toNat < r'.1.toNat
  spent : ∀ r ∈ v.rung, r.1.toNat ≤ v.watch.spent

variable {prompt : Bool}
variable {window : Nat}
variable {moves : List Move}
variable {v v' : Vigil}
variable {m : Move}

namespace Placed

/- The token of an armed watch is that of its latest reset. -/
theorem token_eq
    (hPlaced : Placed prompt window moves v)
    {before calm : List Move}
    (hArmed : Armed moves before calm) :
    v.watch.token.toNat = before.count .reset + 1 := by
  rw [hPlaced.token hArmed.drop_notMem, hArmed.count_eq]

theorem alarm_eq_none
    (hPlaced : Placed prompt window moves v)
    (hDrop : .drop ∈ moves) :
    v.watch.alarm = none := by
  have hPosture := hPlaced.posture
  generalize v.watch.alarm = alarm at hPosture
  cases hPosture with
  | off => rfl
  | waiting hArmed => exact absurd hDrop hArmed.drop_notMem
  | rung hArmed => exact absurd hDrop hArmed.drop_notMem

/- The current token is that of a watch that is armed. -/
theorem isCurrent_iff
    (hPlaced : Placed prompt window moves v)
    (token : UInt64) :
    v.watch.isCurrent token = true ↔
      ∃ before calm,
        Armed moves before calm ∧
          token.toNat = before.count .reset + 1 := by
  have hPosture := hPlaced.posture
  have hCurrent
      {before calm : List Move}
      (hArmed : Armed moves before calm)
      (hAlarm : v.watch.alarm.isSome = true) :
      v.watch.isCurrent token = true ↔
        ∃ before calm,
          Armed moves before calm ∧
            token.toNat = before.count .reset + 1 := by
    rw [isCurrent, isArmed, hAlarm, Bool.true_and, beq_iff_eq,
      ← UInt64.toNat_inj, hPlaced.token_eq hArmed]
    constructor
    · intro hToken
      exact ⟨before, calm, hArmed, hToken⟩
    · rintro ⟨before', calm', hArmed', hToken⟩
      rw [hToken, (hArmed.unique hArmed').1]
  generalize hAlarm : v.watch.alarm = alarm at hPosture
  cases hPosture with
  | off hOff =>
      rw [isCurrent, isArmed, hAlarm]
      constructor
      · intro hFalse
        exact absurd hFalse (by simp)
      · rintro ⟨before, calm, hArmed, _⟩
        exact absurd hArmed (hOff before calm)
  | waiting hArmed => exact hCurrent hArmed (by rw [hAlarm]; rfl)
  | rung hArmed => exact hCurrent hArmed (by rw [hAlarm]; rfl)

end Placed

namespace Kept

/- A move at which nothing goes off. -/
theorem quiet
    (hKept : Kept prompt window moves v)
    (hPlaced : Placed prompt window (moves ++ [m]) v')
    (hRung : v'.rung = v.rung)
    (hSpent : v.watch.spent ≤ v'.watch.spent)
    (hOver :
      ∀ token instant,
        Over prompt window (moves ++ [m]) token instant →
          Over prompt window moves token instant) :
    Kept prompt window (moves ++ [m]) v' where
  placed := hPlaced
  rung token instant := by
    rw [hRung, hKept.rung, rings_concat_iff]
    constructor
    · exact .inl
    · rintro (hRings | hNow)
      · exact hRings
      · exact
          ⟨moves, List.prefix_refl _, hOver token instant hNow⟩
  order := by
    rw [hRung]
    exact hKept.order
  spent r hMem := by
    rw [hRung] at hMem
    exact Nat.le_trans (hKept.spent r hMem) hSpent

/- A move at which the alarm goes off. -/
theorem ring
    (hKept : Kept prompt window moves v)
    (hPlaced : Placed prompt window (moves ++ [m]) v')
    {instant : Nat}
    (hRung :
      v'.rung = v.rung ++ [(v'.watch.token, instant)])
    (hSpent : v.watch.spent < v'.watch.token.toNat)
    (hDue : v'.watch.due? = none)
    (hOver :
      Over prompt window (moves ++ [m]) v'.watch.token instant) :
    Kept prompt window (moves ++ [m]) v' where
  placed := hPlaced
  rung token instant' := by
    rw [hRung, List.mem_append, hKept.rung, rings_concat_iff,
      List.mem_singleton, Prod.mk.injEq]
    constructor
    · rintro (hRings | ⟨rfl, rfl⟩)
      · exact .inl hRings
      · exact .inr hOver
    · rintro (hRings | hNow)
      · exact .inl hRings
      · exact .inr (hNow.unique hOver)
  order := by
    rw [hRung, List.pairwise_append]
    refine ⟨hKept.order, List.pairwise_singleton _ _, ?_⟩
    intro r hMem r' hNew
    rw [List.mem_singleton.mp hNew]
    exact Nat.lt_of_le_of_lt (hKept.spent r hMem) hSpent
  spent r hMem := by
    have hDone : v'.watch.spent = v'.watch.token.toNat := by
      unfold Keepalive.spent
      rw [hDue]
    rw [hDone]
    rw [hRung] at hMem
    rcases List.mem_append.mp hMem with hOld | hNew
    · exact
        Nat.le_of_lt
          (Nat.lt_of_le_of_lt (hKept.spent r hOld) hSpent)
    · have hLast := List.mem_singleton.mp hNew
      exact Nat.le_of_eq (by rw [hLast])

theorem new (prompt : Bool) (window : Nat) :
    Kept prompt window [] (Vigil.new window) := by
  have hNone (before calm : List Move) :
      ¬ Armed [] before calm := by
    intro hArmed
    simpa using hArmed.moves_eq
  refine ⟨⟨rfl, rfl, ?_, fun _ => rfl, .off hNone⟩, ?_, ?_, ?_⟩
  · simp [Vigil.new]
  · intro token instant
    constructor
    · intro hMem
      simp [Vigil.new] at hMem
    · rintro ⟨seen, hPrefix, before, calm, hArmed, _⟩
      rw [List.prefix_nil.mp hPrefix] at hArmed
      exact absurd hArmed (hNone before calm)
  · exact .nil
  · simp [Vigil.new]

end Kept

end Keepalive

end EventFeed

------------------------------------------------------------
-- Move by Move
------------------------------------------------------------

namespace EventFeed

namespace Keepalive

variable {prompt : Bool}
variable {window : Nat}
variable {moves : List Move}
variable {v v' : Vigil}
variable {m : Move}

theorem spent_le (k : Keepalive) : k.spent ≤ k.token.toNat := by
  unfold spent
  split
  · exact Nat.sub_le _ _
  · exact Nat.le_refl _

theorem spent_of_due?
    {k : Keepalive}
    {due : Nat}
    (hDue : k.due? = some due) :
    k.spent = k.token.toNat - 1 := by
  unfold spent
  rw [hDue]

theorem due?_of_waiting
    {k : Keepalive}
    {due : Nat}
    (hAlarm : k.alarm = some (.waiting due)) :
    k.due? = some due := by
  rw [due?, hAlarm]

theorem ring_of_waiting
    {k : Keepalive}
    {due : Nat}
    (hAlarm : k.alarm = some (.waiting due)) :
    k.ring = { k with alarm := some .rung } := by
  rw [Keepalive.ring, hAlarm]

theorem elapsed_concat (moves : List Move) (m : Move) :
    elapsed (moves ++ [m]) = elapsed moves + m.span := by
  rw [elapsed_append]
  simp [elapsed]

/- What neither resets nor drops leaves the token alone. -/
theorem Placed.still
    (hPlaced : Placed prompt window moves v)
    (hReset : m ≠ .reset)
    (hDrop : m ≠ .drop)
    (hNow : v'.now = v.now + m.span)
    (hSpan : v'.watch.window = v.watch.window)
    (hGone : v'.gone = v.gone)
    (hToken : v'.watch.token = v.watch.token)
    (hPosture :
      Posture prompt window (moves ++ [m]) v'.watch.alarm) :
    Placed prompt window (moves ++ [m]) v' where
  now := by rw [hNow, hPlaced.now, elapsed_concat]
  span := hSpan.trans hPlaced.span
  gone := by
    rw [hGone, hPlaced.gone]
    simp [hDrop.symm]
  token hKept := by
    have hKept' : .drop ∉ moves :=
      fun hMem => hKept (List.mem_append_left [m] hMem)
    rw [hToken, hPlaced.token hKept', List.count_append]
    simp [hReset]
  posture := hPosture

/- A watch that was dropped stays so. -/
theorem Placed.dropped
    (hPlaced : Placed prompt window moves v)
    (hDrop : .drop ∈ moves ++ [m])
    (hNow : v'.now = v.now + m.span)
    (hSpan : v'.watch.window = v.watch.window)
    (hGone : v'.gone = true)
    (hAlarm : v'.watch.alarm = none) :
    Placed prompt window (moves ++ [m]) v' where
  now := by rw [hNow, hPlaced.now, elapsed_concat]
  span := hSpan.trans hPlaced.span
  gone := by simp only [hGone, hDrop]
  token hKept := absurd hDrop hKept
  posture := by
    rw [hAlarm]
    exact .off fun _ _ hArmed => hArmed.drop_notMem hDrop

/- And a reset of it issues the next token. -/
theorem Placed.reset
    (hPlaced : Placed prompt window moves v)
    (hNow : v'.now = v.now)
    (hSpan : v'.watch.window = v.watch.window)
    (hGone : v'.gone = v.gone)
    (hToken :
      v'.watch.token.toNat = moves.count .reset + 1)
    (hPosture :
      Posture prompt window (moves ++ [.reset])
        v'.watch.alarm) :
    Placed prompt window (moves ++ [.reset]) v' where
  now := by
    rw [elapsed_concat, hNow]
    exact hPlaced.now
  span := hSpan.trans hPlaced.span
  gone := by
    rw [hGone, hPlaced.gone]
    simp
  token _ := by
    rw [hToken, List.count_append, List.count_singleton_self]
  posture := hPosture

namespace Kept

/- A move after which no window can be over. -/
theorem unarmed
    (hKept : Kept prompt window moves v)
    (hPlaced : Placed prompt window (moves ++ [m]) v')
    (hRung : v'.rung = v.rung)
    (hSpent : v.watch.spent ≤ v'.watch.spent)
    (hNone :
      ∀ before calm, ¬ Armed (moves ++ [m]) before calm) :
    Kept prompt window (moves ++ [m]) v' := by
  refine hKept.quiet hPlaced hRung hSpent ?_
  rintro token instant ⟨before, calm, hArmed, _⟩
  exact absurd hArmed (hNone before calm)

theorem stop
    (hKept : Kept prompt window moves v) :
    Kept prompt window (moves ++ [.stop]) (v.act .stop) := by
  have hNone (before calm : List Move) :
      ¬ Armed (moves ++ [.stop]) before calm := by
    intro hArmed
    rcases hArmed.concat_cases with ⟨hMove, _⟩ | ⟨_, _, hMove, _⟩
    · cases hMove
    · cases hMove
  have hPlaced :
      Placed prompt window (moves ++ [.stop]) (v.act .stop) :=
    hKept.placed.still (by decide) (by decide) rfl rfl rfl rfl
      (.off hNone)
  exact hKept.unarmed hPlaced rfl (spent_le _) hNone

theorem drop
    (hKept : Kept prompt window moves v) :
    Kept prompt window (moves ++ [.drop]) (v.act .drop) := by
  have hDrop : .drop ∈ moves ++ [Move.drop] := by simp
  have hPlaced :
      Placed prompt window (moves ++ [.drop]) (v.act .drop) :=
    hKept.placed.dropped hDrop rfl rfl rfl rfl
  exact
    hKept.unarmed hPlaced rfl (spent_le _)
      fun _ _ hArmed => hArmed.drop_notMem hDrop

/- To reset a watch that was dropped is to do nothing. -/
theorem reset_dropped
    (hKept : Kept prompt window moves v)
    (hDrop : .drop ∈ moves) :
    Kept prompt window (moves ++ [.reset]) v := by
  have hDrop' : .drop ∈ moves ++ [Move.reset] :=
    List.mem_append_left _ hDrop
  have hPlaced : Placed prompt window (moves ++ [.reset]) v :=
    hKept.placed.dropped hDrop' rfl rfl
      (hKept.placed.gone.mpr hDrop)
      (hKept.placed.alarm_eq_none hDrop)
  exact
    hKept.unarmed hPlaced rfl (Nat.le_refl _)
      fun _ _ hArmed => hArmed.drop_notMem hDrop'

/- Where the alarm stands right after a reset. -/
theorem alarm_reset
    (hKept : Kept prompt window moves v) :
    v.reset.watch.alarm =
      some (.waiting (elapsed moves + window)) := by
  rw [← hKept.placed.now, ← hKept.placed.span]
  rfl

theorem toNat_reset
    (hKept : Kept prompt window moves v)
    (hDrop : .drop ∉ moves)
    (hFew : (moves ++ [Move.reset]).count .reset < UInt64.size) :
    v.reset.watch.token.toNat = moves.count .reset + 1 := by
  have hToken := hKept.placed.token hDrop
  rw [List.count_append, List.count_singleton_self] at hFew
  change (v.watch.token + 1).toNat = _
  rw [UInt64.toNat_add, hToken]
  exact Nat.mod_eq_of_lt hFew

/- A reset whose window is not over as soon as it begins. -/
theorem reset_waiting
    (hKept : Kept prompt window moves v)
    (hDrop : .drop ∉ moves)
    (hFew : (moves ++ [Move.reset]).count .reset < UInt64.size)
    (hAhead : 0 < window ∨ prompt = false) :
    Kept prompt window (moves ++ [.reset]) v.reset := by
  have hToken := hKept.toNat_reset hDrop hFew
  have hPosture :
      Posture prompt window (moves ++ [.reset])
        v.reset.watch.alarm := by
    rw [hKept.alarm_reset]
    refine .waiting (.reset hDrop) ?_
    exact hAhead.imp_right fun hPrompt => ⟨hPrompt, rfl⟩
  have hPlaced : Placed prompt window (moves ++ [.reset]) v.reset :=
    hKept.placed.reset rfl rfl rfl hToken hPosture
  have hSpent : v.watch.spent ≤ v.reset.watch.spent := by
    rw [spent_of_due? (due?_of_waiting hKept.alarm_reset), hToken,
      ← hKept.placed.token hDrop]
    exact spent_le v.watch
  refine hKept.quiet hPlaced rfl hSpent ?_
  rintro token instant
    ⟨before, calm, hArmed, hLooked, hOver, _⟩
  -- no time has passed since the reset, nor was there a look
  obtain ⟨_, hCalm⟩ := hArmed.unique (.reset hDrop)
  subst hCalm
  rcases hAhead with hAhead | hPrompt
  · exact absurd hOver (Nat.not_le.mpr hAhead)
  · rcases hLooked with hLooked | hCalm
    · exact absurd (hPrompt.symm.trans hLooked) Bool.false_ne_true
    · exact absurd rfl hCalm

/- A window of no length is over as soon as it begins. -/
theorem reset_ring
    (hKept : Kept true 0 moves v)
    (hDrop : .drop ∉ moves)
    (hFew : (moves ++ [Move.reset]).count .reset < UInt64.size) :
    Kept true 0 (moves ++ [.reset]) v.reset.look := by
  have hToken := hKept.toNat_reset hDrop hFew
  have hAlarm := hKept.alarm_reset
  have hDue := due?_of_waiting hAlarm
  have hNow : elapsed moves + 0 ≤ v.reset.now :=
    Nat.le_of_eq hKept.placed.now.symm
  rw [Vigil.look_of_le hDue hNow, ring_of_waiting hAlarm]
  have hArmed := Armed.reset hDrop
  have hPosture :
      Posture true 0 (moves ++ [.reset]) (some .rung) :=
    .rung hArmed (.inl rfl) (Nat.zero_le _)
  have hSpent :
      v.watch.spent < v.reset.watch.token.toNat := by
    rw [hToken, ← hKept.placed.token hDrop]
    exact Nat.lt_succ_of_le (spent_le v.watch)
  refine
    hKept.ring
      (hKept.placed.reset rfl rfl rfl hToken hPosture) rfl hSpent
      rfl ?_
  exact
    ⟨moves, [], hArmed, .inl rfl, Nat.zero_le _,
      hKept.placed.now, hToken⟩

theorem reset
    (hKept : Kept prompt window moves v)
    (hFew : (moves ++ [Move.reset]).count .reset < UInt64.size) :
    Kept prompt window (moves ++ [.reset])
      (v.move prompt .reset) := by
  by_cases hDrop : .drop ∈ moves
  · have hDue : v.watch.due? = none := by
      rw [due?, hKept.placed.alarm_eq_none hDrop]
    have hAct : v.act .reset = v := by
      rw [Vigil.act, if_pos (hKept.placed.gone.mpr hDrop)]
    rw [Vigil.move_of_due?_eq_none (by rw [hAct, hDue]), hAct]
    exact hKept.reset_dropped hDrop
  · have hGone : v.gone = false := by
      rw [← Bool.not_eq_true, hKept.placed.gone]
      exact hDrop
    have hAct : v.act .reset = v.reset := by
      simp [Vigil.act, hGone]
    cases prompt with
    | false =>
        have hMove : v.move false .reset = v.reset := by
          simp [Vigil.move, hAct]
        rw [hMove]
        exact hKept.reset_waiting hDrop hFew (.inr rfl)
    | true =>
        have hMove : v.move true .reset = v.reset.look := by
          simp [Vigil.move, hAct]
        rw [hMove]
        rcases Nat.eq_zero_or_pos window with hZero | hPositive
        · subst hZero
          exact hKept.reset_ring hDrop hFew
        · have hAhead :
              v.reset.now < elapsed moves + window := by
            have hNow : v.reset.now = elapsed moves :=
              hKept.placed.now
            omega
          rw [Vigil.look_of_lt
            (due?_of_waiting hKept.alarm_reset) hAhead]
          exact hKept.reset_waiting hDrop hFew (.inl hPositive)

/- Time passes, and no window is over that was not before. -/
theorem pass_quiet
    (hKept : Kept prompt window moves v)
    {span : Nat}
    (hWait : v.wait span = { v with now := v.now + span })
    (hPosture :
      Posture prompt window (moves ++ [.pass span])
        v.watch.alarm)
    (hOver :
      ∀ token instant,
        Over prompt window (moves ++ [.pass span]) token instant →
          Over prompt window moves token instant) :
    Kept prompt window (moves ++ [.pass span])
      (v.wait span) := by
  rw [hWait]
  have hPlaced :
      Placed prompt window (moves ++ [.pass span])
        { v with now := v.now + span } :=
    hKept.placed.still (by simp) (by simp) rfl rfl rfl rfl
      hPosture
  exact hKept.quiet hPlaced rfl (Nat.le_refl _) hOver

/- Time says nothing to a watch that is not armed. -/
theorem pass_off
    (hKept : Kept prompt window moves v)
    (hAlarm : v.watch.alarm = none)
    (hOff : ∀ before calm, ¬ Armed moves before calm)
    (span : Nat) :
    Kept prompt window (moves ++ [.pass span])
      (v.wait span) := by
  have hDue : v.watch.due? = none := by rw [due?, hAlarm]
  have hNone (before calm : List Move) :
      ¬ Armed (moves ++ [.pass span]) before calm := by
    intro hArmed
    rcases hArmed.concat_cases with
      ⟨hMove, _⟩ | ⟨_, seen, _, _, hArmed'⟩
    · cases hMove
    · exact hOff before seen hArmed'
  refine
    hKept.pass_quiet (Vigil.wait_of_due?_eq_none hDue span) ?_ ?_
  · rw [hAlarm]
    exact .off hNone
  · rintro token instant ⟨before, calm, hArmed, _⟩
    exact absurd hArmed (hNone before calm)

section

variable {before calm : List Move}

/- An alarm that has gone off does not go off again. -/
theorem pass_rung
    (hKept : Kept prompt window moves v)
    (hAlarm : v.watch.alarm = some .rung)
    (hArmed : Armed moves before calm)
    (hLooked : prompt = true ∨ calm ≠ [])
    (hOver : window ≤ elapsed calm)
    (span : Nat) :
    Kept prompt window (moves ++ [.pass span])
      (v.wait span) := by
  have hDue : v.watch.due? = none := by rw [due?, hAlarm]
  refine
    hKept.pass_quiet (Vigil.wait_of_due?_eq_none hDue span) ?_ ?_
  · rw [hAlarm]
    refine .rung (hArmed.pass span) (.inr (by simp)) ?_
    rw [elapsed_append]
    omega
  · rintro token instant
      ⟨before', calm', hArmed', _, _, hInstant, hToken⟩
    obtain ⟨rfl, _⟩ := (hArmed.pass span).unique hArmed'
    exact
      ⟨before, calm, hArmed, hLooked, hOver, hInstant, hToken⟩

/- The clock does not come to the end of the window. -/
theorem pass_short
    (hKept : Kept prompt window moves v)
    (hAlarm :
      v.watch.alarm = some (.waiting (elapsed before + window)))
    (hArmed : Armed moves before calm)
    {span : Nat}
    (hShort : elapsed calm + span < window) :
    Kept prompt window (moves ++ [.pass span])
      (v.wait span) := by
  have hNow : v.now = elapsed before + elapsed calm :=
    hKept.placed.now.trans hArmed.elapsed_eq
  have hBefore : v.now + span < elapsed before + window := by
    omega
  have hShort' : elapsed (calm ++ [.pass span]) < window := by
    rw [elapsed_concat]
    exact hShort
  refine
    hKept.pass_quiet
      (Vigil.wait_of_lt (due?_of_waiting hAlarm) hBefore) ?_ ?_
  · rw [hAlarm]
    exact .waiting (hArmed.pass span) (.inl hShort')
  · rintro token instant ⟨before', calm', hArmed', _, hOver, _⟩
    obtain ⟨_, rfl⟩ := (hArmed.pass span).unique hArmed'
    omega

/- The clock comes to the end of the window on its way. -/
theorem pass_ring
    (hKept : Kept prompt window moves v)
    (hAlarm :
      v.watch.alarm = some (.waiting (elapsed before + window)))
    (hArmed : Armed moves before calm)
    (hCalm : elapsed calm ≤ window)
    {span : Nat}
    (hReach : window ≤ elapsed calm + span) :
    Kept prompt window (moves ++ [.pass span])
      (v.wait span) := by
  have hDue := due?_of_waiting hAlarm
  have hNow : v.now = elapsed before + elapsed calm :=
    hKept.placed.now.trans hArmed.elapsed_eq
  have hFirst : v.now ≤ elapsed before + window := by omega
  have hPast : elapsed before + window ≤ v.now + span := by
    omega
  have hToken := hKept.placed.token_eq hArmed
  have hReach' : window ≤ elapsed (calm ++ [.pass span]) := by
    rw [elapsed_concat]
    exact hReach
  rw [Vigil.wait_of_le hDue hFirst hPast, ring_of_waiting hAlarm]
  have hPosture :
      Posture prompt window (moves ++ [.pass span])
        (some .rung) :=
    .rung (hArmed.pass span) (.inr (by simp)) hReach'
  have hSpent : v.watch.spent < v.watch.token.toNat := by
    rw [spent_of_due? hDue]
    omega
  refine
    hKept.ring
      (hKept.placed.still (by simp) (by simp) rfl rfl rfl rfl
        hPosture)
      rfl hSpent rfl ?_
  exact
    ⟨before, calm ++ [.pass span], hArmed.pass span,
      .inr (by simp), hReach', rfl, hToken⟩

end

theorem pass
    (hKept : Kept prompt window moves v)
    (span : Nat) :
    Kept prompt window (moves ++ [.pass span])
      (v.wait span) := by
  have hPosture := hKept.placed.posture
  generalize hAlarm : v.watch.alarm = alarm at hPosture
  cases hPosture with
  | off hOff => exact hKept.pass_off hAlarm hOff span
  | rung hArmed hLooked hOver =>
      exact hKept.pass_rung hAlarm hArmed hLooked hOver span
  | @waiting before calm hArmed hAhead =>
      have hCalm : elapsed calm ≤ window := by
        rcases hAhead with hAhead | ⟨_, rfl⟩
        · exact Nat.le_of_lt hAhead
        · exact Nat.zero_le _
      rcases Nat.lt_or_ge (elapsed calm + span) window with
        hShort | hReach
      · exact hKept.pass_short hAlarm hArmed hShort
      · exact hKept.pass_ring hAlarm hArmed hCalm hReach

/- What holds of a watch goes on to hold with every move. -/
theorem move
    (hKept : Kept prompt window moves v)
    (hFew : (moves ++ [m]).count .reset < UInt64.size) :
    Kept prompt window (moves ++ [m]) (v.move prompt m) := by
  cases m with
  | reset => exact hKept.reset hFew
  | stop =>
      rw [Vigil.move_of_due?_eq_none rfl]
      exact hKept.stop
  | drop =>
      rw [Vigil.move_of_due?_eq_none rfl]
      exact hKept.drop
  | pass span =>
      rw [Vigil.move_pass]
      exact hKept.pass span

theorem follow
    (hKept : Kept prompt window moves v)
    {more : List Move}
    (hFew : (moves ++ more).count .reset < UInt64.size) :
    Kept prompt window (moves ++ more)
      (v.follow prompt more) := by
  induction more generalizing moves v with
  | nil =>
      rw [List.append_nil]
      exact hKept
  | cons m more ih =>
      have hMoves : moves ++ m :: more = (moves ++ [m]) ++ more := by
        simp
      rw [hMoves] at hFew ⊢
      have hFirst : (moves ++ [m]).count .reset < UInt64.size := by
        rw [List.count_append] at hFew
        omega
      exact ih (hKept.move hFirst) hFew

end Kept

end Keepalive

end EventFeed

------------------------------------------------------------
-- The Law of the Watch
------------------------------------------------------------

namespace EventFeed

namespace Keepalive

/-
  A watch is reset and stopped, time passes, and in the end
  it may be dropped.

  Each reset issues the next token.  The tokens that go off
  are those of the resets whose windows passed in peace, each
  at the instant its window ends, in the order of their
  issue, and each once; after a stop none goes off before the
  next reset, and after the watch is dropped none at all.
  The latest token is current until the watch is stopped or
  dropped, gone off or not.  And a span of time is the same
  in one piece as in two.
-/
theorem vigilant_follow
    (window : Nat)
    (prompt : Bool)
    (moves : List Move)
    (hFew : moves.count .reset < UInt64.size) :
    let v := (Vigil.new window).follow prompt moves
    (∀ before after,
        moves = before ++ .reset :: after →
          .drop ∉ before →
            ((Vigil.new window).follow prompt
                (before ++ [.reset])).watch.token.toNat =
              before.count .reset + 1) ∧
      (∀ token instant,
        (token, instant) ∈ v.rung ↔
          Rings prompt window moves token instant) ∧
      (v.rung.Pairwise fun r r' => r.1.toNat < r'.1.toNat) ∧
      (∀ before after,
        moves = before ++ .drop :: after ∨
            (moves = before ++ .stop :: after ∧
              .reset ∉ after) →
          v.rung =
            ((Vigil.new window).follow prompt before).rung) ∧
      (∀ token,
        v.watch.isCurrent token = true ↔
          ∃ before calm,
            Armed moves before calm ∧
              token.toNat = before.count .reset + 1) ∧
      (∀ before after a b,
        moves = before ++ .pass (a + b) :: after →
          v =
            (Vigil.new window).follow prompt
              (before ++ .pass a :: .pass b :: after)) := by
  intro v
  have hKept : Kept prompt window moves v :=
    (Kept.new prompt window).follow hFew
  refine
    ⟨?_, hKept.rung, hKept.order, ?_, hKept.placed.isCurrent_iff,
      ?_⟩
  · intro before after hMoves hDrop
    have hFirst :
        (before ++ [Move.reset]).count .reset < UInt64.size := by
      rw [hMoves] at hFew
      simp only [List.count_append, List.count_cons,
        List.count_nil] at hFew ⊢
      omega
    have hKept' :
        Kept prompt window (before ++ [.reset])
          ((Vigil.new window).follow prompt
            (before ++ [.reset])) :=
      (Kept.new prompt window).follow hFirst
    exact hKept'.placed.token_eq (Armed.reset hDrop)
  · intro before after hMoves
    rcases hMoves with hMoves | ⟨hMoves, hReset⟩
    · have hRun :
          v =
            (((Vigil.new window).follow prompt before).move prompt
              .drop).follow prompt after := by
        change (Vigil.new window).follow prompt moves = _
        rw [hMoves, Vigil.follow_append]
        rfl
      rw [hRun, Vigil.move_of_due?_eq_none rfl]
      exact Vigil.rung_follow_of_alarm_eq_none rfl (.inl rfl)
    · have hRun :
          v =
            (((Vigil.new window).follow prompt before).move prompt
              .stop).follow prompt after := by
        change (Vigil.new window).follow prompt moves = _
        rw [hMoves, Vigil.follow_append]
        rfl
      rw [hRun, Vigil.move_of_due?_eq_none rfl]
      exact Vigil.rung_follow_of_alarm_eq_none rfl (.inr hReset)
  · intro before after a b hMoves
    change (Vigil.new window).follow prompt moves = _
    rw [hMoves, Vigil.follow_append, Vigil.follow_append]
    change
      Vigil.follow prompt (Vigil.move prompt _ _) after =
        Vigil.follow prompt
          (Vigil.move prompt (Vigil.move prompt _ _) _) after
    rw [Vigil.move_pass, Vigil.move_pass, Vigil.move_pass,
      Vigil.wait_add]

/-
  The first window is cut short by a reset and the second one
  ends halfway through a span of time; the third reset is
  stopped in the millisecond before its window would end.
-/
theorem vigilant_follow_until_stopped :
    let moves : List Move :=
      [.reset, .pass 2, .reset, .pass 5, .reset, .pass 2, .stop,
        .pass 9]
    let v := (Vigil.new 3).follow true moves
    moves.count .reset < UInt64.size ∧
      v.rung = [(2, 5)] ∧
      Rings true 3 moves 2 5 ∧
      v.watch.isCurrent 3 = false := by
  intro moves v
  have hFew : moves.count .reset < UInt64.size := by
    decide +kernel
  have hLaw := vigilant_follow 3 true moves hFew
  have hRung : v.rung = [(2, 5)] := by decide +kernel
  refine ⟨hFew, hRung, ?_, by decide +kernel⟩
  apply (hLaw.2.1 2 5).mp
  change (2, 5) ∈ v.rung
  simp [hRung]

end Keepalive

end EventFeed
