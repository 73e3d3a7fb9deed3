import EventFeed.Proofs.Client.Effect
import EventFeed.Proofs.Client.Past

/-
  This file says what of a client its operations do not heed.

  Which handlers there are, when the attempt was started, how
  often the watch was reset before and how many pings were
  counted make no difference to what an operation does and
  owes.  A client in a guise differs in nothing else, and an
  operation leaves it in the same guise.

  Key definitions include:
    * `Guise`
    * `Client.guise`
    * `Outcome.Guised`

  Key results include:
    * `Client.guised_connect`
    * `Client.guised_disconnect`
    * `Client.guised_report`
    * `Client.guised_fireTimer`
    * `Client.guised_fireAlarm`
    * `Client.guised_accept`
-/

------------------------------------------------------------
-- Guises
------------------------------------------------------------

namespace EventFeed

/-
  What a client may look like beside another one: the watch
  was reset more often, more pings were counted, there are
  other handlers, and the attempt may have been started at
  another instant.
-/
structure Guise where
  resets : UInt64
  pings : UInt64
  startedAt : Option (Option Time)
  handlers : Registry Handler

variable (g : Guise)

/- The guise with another say about when it was started. -/
def Guise.starting (startedAt : Option (Option Time)) : Guise :=
  { g with startedAt := startedAt }

def Link.guise (l : Link) : Link :=
  { l with
    keepalive :=
      { l.keepalive with token := l.keepalive.token + g.resets }
    startedAt := g.startedAt.getD l.startedAt }

def Tally.guise (t : Tally) : Tally :=
  { t with pings := t.pings + g.pings }

/- The client in a guise. -/
def Client.guise (c : Client) : Client where
  config := c.config
  link := c.link.guise g
  tally := c.tally.guise g
  handlers := g.handlers

/-
  An outcome is another one in a guise.  Attempts that were
  started at the same instant still are.
-/
structure Outcome.Guised (o o' : Outcome) : Prop where
  owed : o'.owed = o.owed
  client :
    ∃ startedAt,
      (g.startedAt = none → startedAt = none) ∧
        o'.client = o.client.guise (g.starting startedAt)

------------------------------------------------------------
-- Links in a Guise
------------------------------------------------------------

namespace Link

variable (config : Config)
variable (now : Time)
variable (l : Link)

@[simp]
theorem phase_guise : (l.guise g).phase = l.phase :=
  rfl

@[simp]
theorem isLive_guise (generation : UInt64) :
    (l.guise g).isLive generation = l.isLive generation :=
  rfl

theorem arm_guise :
    (l.guise g).arm now = (l.arm now).guise g := by
  simp only [arm, guise, Keepalive.reset, add_one_after]

/- Every failure is answered the same way. -/
theorem recover_guise :
    (l.guise g).recover config now =
      { l.recover config now with
        link := (l.recover config now).link.guise g } := by
  have hPhase : (l.guise g).phase = l.phase := rfl
  have hManual : (l.guise g).manual = l.manual := rfl
  have hAttempts : (l.guise g).attempts = l.attempts := rfl
  unfold recover
  rw [hPhase, hManual, hAttempts]
  split
  · rfl
  · split
    · rfl
    · split
      · rfl
      · split
        · split <;> rfl
        · rfl

end Link

------------------------------------------------------------
-- Operations in a Guise
------------------------------------------------------------

namespace Client

variable (c : Client)
variable (now : Time)

theorem guised_unchanged :
    Outcome.Guised g c.unchanged (c.guise g).unchanged :=
  ⟨rfl, g.startedAt, id, rfl⟩

theorem guised_remarked (r r' : Remark) :
    Outcome.Guised g (c.remarked r)
      ((c.guise g).remarked r') :=
  ⟨rfl, g.startedAt, id, rfl⟩

/-
  The instant of a connect says when its attempt was started,
  and nothing else.
-/
theorem guised_connect
    (later : Time)
    (hInstant : g.startedAt = none → later = now) :
    Outcome.Guised g (c.connect later)
      ((c.guise g).connect now) := by
  unfold connect
  rw [show (c.guise g).link.phase = c.link.phase from rfl]
  split
  · by_cases hSame : later = now
    · subst hSame
      exact ⟨rfl, none, fun _ => rfl, rfl⟩
    · refine ⟨rfl, some (some now), ?_, rfl⟩
      intro hNone
      exact absurd (hInstant hNone) hSame
  · exact guised_unchanged g c

theorem guised_disconnect :
    Outcome.Guised g c.disconnect (c.guise g).disconnect :=
  ⟨rfl, none, fun _ => rfl, rfl⟩

theorem guised_accept (e : Event) :
    Outcome.Guised g (c.accept e) ((c.guise g).accept e) :=
  ⟨rfl, g.startedAt, id, rfl⟩

theorem guised_opening (next : List Duty) :
    Outcome.Guised g (c.opening now next)
      ((c.guise g).opening now next) := by
  refine ⟨rfl, g.startedAt, id, ?_⟩
  simp only [opening, Link.openUp]
  have hArm :=
    Link.arm_guise g now
      { c.link.enter .opened with
        attempts := 0
        openedAt := some now }
  exact
    congrArg
      (fun l => Client.mk c.config l (c.tally.guise g) g.handlers)
      hArm

theorem guised_recover (before : List Remark) :
    Outcome.Guised g (c.recover now before)
      ((c.guise g).recover now before) := by
  have hRecover := c.link.recover_guise g c.config now
  unfold recover
  rw [show (c.guise g).link = c.link.guise g from rfl,
    show (c.guise g).config = c.config from rfl, hRecover]
  exact ⟨rfl, g.startedAt, id, rfl⟩

theorem guised_report
    (generation : UInt64)
    (r : Report) :
    Outcome.Guised g (c.report now generation r)
      ((c.guise g).report now generation r) := by
  have hLink : (c.guise g).link = c.link.guise g := rfl
  cases r with
  | opened =>
      simp only [report, hLink, Link.isLive_guise,
        Link.phase_guise]
      split
      · exact guised_opening g c now []
      · exact guised_unchanged g c
  | event e =>
      simp only [report, takeEvent, hLink, Link.isLive_guise,
        Link.phase_guise]
      split
      · split
        · exact guised_opening g c now [.deliver generation e]
        · rw [Link.arm_guise]
          exact
            guised_accept g { c with link := c.link.arm now } e
        · exact guised_unchanged g c
      · exact guised_remarked g c _ _
  | error e =>
      simp only [report, takeError, hLink, Link.isLive_guise]
      split
      · exact ⟨rfl, g.startedAt, id, rfl⟩
      · exact guised_remarked g c _ _
  | closed =>
      simp only [report, takeEnd, hLink, Link.isLive_guise]
      split
      · exact
          guised_recover g
            { c with link := { c.link with transport := none } }
            now []
      · exact guised_unchanged g c

theorem guised_fireTimer (generation : UInt64) :
    Outcome.Guised g (c.fireTimer now generation)
      ((c.guise g).fireTimer now generation) := by
  unfold fireTimer
  rw [show (c.guise g).link.manual = c.link.manual from rfl,
    show (c.guise g).link.phase = c.link.phase from rfl,
    show (c.guise g).link.generation = c.link.generation
      from rfl]
  split
  · exact guised_remarked g c _ _
  · exact ⟨rfl, none, fun _ => rfl, rfl⟩

/- An alarm is current by the resets that its watch has had. -/
theorem guised_fireAlarm (generation token : UInt64) :
    Outcome.Guised g (c.fireAlarm now generation token)
      ((c.guise g).fireAlarm now generation
        (token + g.resets)) := by
  have hCurrent :
      (c.guise g).link.keepalive.isCurrent (token + g.resets) =
        c.link.keepalive.isCurrent token := by
    simp [guise, Link.guise, Keepalive.isCurrent,
      Keepalive.isArmed, add_beq_after]
  unfold fireAlarm
  rw [hCurrent,
    show (c.guise g).link.manual = c.link.manual from rfl,
    show (c.guise g).link.phase = c.link.phase from rfl,
    show (c.guise g).link.generation = c.link.generation
      from rfl]
  simp only []
  split
  · exact ⟨rfl, g.startedAt, id, rfl⟩
  · exact
      guised_recover g
        { c with
          link :=
            { c.link with keepalive := c.link.keepalive.stop } }
        now
        [.silent c.link.keepalive.window,
          .timedOut c.link.keepalive.window]

end Client

end EventFeed
