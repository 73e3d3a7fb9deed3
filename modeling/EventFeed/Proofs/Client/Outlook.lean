import EventFeed.Proofs.Client.Unheard

/-
  This file says what comes of a turn if nobody listens any
  more.

  Nothing but duties is left to do then.  They add to the
  counters and to what shows, one scene after the other, and
  neither the time nor the attempts that begin meanwhile make
  a difference to them.

  Key definitions include:
    * `Scene`
    * `Turn.trail`
    * `Turn.ahead`
    * `Turn.IsBare`
    * `Turn.outlook`

  Key results include:
    * `Turn.IsBare.finish_stamp`
    * `Turn.IsBare.ahead_stamp`
    * `Turn.unheard_outlook`
-/

------------------------------------------------------------
-- Scenes
------------------------------------------------------------

namespace EventFeed

/-
  What a connection looks like from outside: its link, its
  counters and the calls that were made so far, in order,
  whether or not anybody heard them.
-/
structure Scene where
  link : Link
  tally : Tally
  calls : List Callback

/- The scene that comes after one, if it is another. -/
def Scene.next (before after : Scene) : List Scene :=
  if after.link = before.link ∧
      after.tally = before.tally ∧
      after.calls.length = before.calls.length then
    []
  else
    [after]

@[simp]
theorem Scene.next_self (s : Scene) : s.next s = [] :=
  if_pos ⟨rfl, rfl, rfl⟩

namespace Turn

/- The calls so far, in order, heard or not. -/
def emissions (t : Turn) : List Callback :=
  t.hearings.map Prod.fst

def scene (t : Turn) : Scene :=
  ⟨t.client.link, t.client.tally, t.emissions⟩

/- The scenes of a run, one after the other. -/
def trail (t : Turn) : List Move → List Scene
  | [] => []
  | m :: moves =>
      t.scene.next (t.move m).scene ++ (t.move m).trail moves

theorem scene_unheard (t : Turn) : t.unheard.scene = t.scene := by
  unfold scene emissions
  rw [hearings_unheard]
  rfl

/- The scenes until nothing is left to do. -/
def ahead (t : Turn) : List Scene :=
  if _hDone : t.agenda = [] then
    []
  else
    t.scene.next t.step.scene ++ t.step.ahead
termination_by t.weight
decreasing_by exact weight_step_lt t _hDone

theorem ahead_of_nil
    {t : Turn}
    (hAgenda : t.agenda = []) :
    t.ahead = [] := by
  rw [ahead, dif_pos hAgenda]

theorem ahead_of_ne_nil
    {t : Turn}
    (hAgenda : t.agenda ≠ []) :
    t.ahead = t.scene.next t.step.scene ++ t.step.ahead := by
  rw [ahead, dif_neg hAgenda]

end Turn

------------------------------------------------------------
-- Bare Turns
------------------------------------------------------------

/- A duty leaves everything but the counters alone. -/
theorem Client.client_perform (c : Client) (d : Duty) :
    (c.perform d).client =
      { c with tally := (c.perform d).client.tally } := by
  cases d with
  | deliver generation e =>
      unfold perform
      by_cases hLive : c.link.isLive generation = true
      · simp only [if_pos hLive]
        rfl
      · simp only [if_neg hLive]
        rfl
  | _ => rfl

namespace Turn

/- Nobody listens, and nothing but duties is left to do. -/
structure IsBare (t : Turn) : Prop where
  handlers : t.client.handlers = Registry.empty
  agenda : ∀ task ∈ t.agenda, task.isDuty = true

theorem isBare_unheard (t : Turn) : t.unheard.IsBare where
  handlers := rfl
  agenda := fun _ hMember => (List.mem_filter.mp hMember).2

/- The turn at another instant and with another history. -/
def stamp
    (t : Turn)
    (now : Time)
    (begun : Array UInt64)
    (alive held : Bool) : Turn :=
  { t with now := now, begun := begun, alive := alive, held := held }

/- The turn after some of its duties. -/
def advanced
    (t : Turn)
    (tally : Tally)
    (agenda : List Task)
    (seen : List Observation) : Turn :=
  { t with
    client := { t.client with tally := tally }
    agenda := agenda
    seen := seen }

namespace IsBare

variable {t : Turn}

/-
  A duty counts, owes further duties and shows.  It neither
  asks for the time nor looks back.
-/
theorem step
    (hBare : t.IsBare)
    (hAgenda : t.agenda ≠ []) :
    ∃ tally agenda seen,
      (∀ task ∈ agenda, task.isDuty = true) ∧
        ∀ now begun alive held,
          (t.stamp now begun alive held).step =
            (t.stamp now begun alive held).advanced tally agenda
              seen := by
  rcases List.exists_cons_of_ne_nil hAgenda with
    ⟨task, rest, hCons⟩
  have hDuties := hBare.agenda
  rw [hCons, List.forall_mem_cons] at hDuties
  have hStep :
      ∀ now begun alive held,
        (t.stamp now begun alive held).step =
          Turn.run
            { t.stamp now begun alive held with agenda := rest }
            task :=
    fun _ _ _ _ => step_of_cons hCons
  cases task with
  | owe d =>
      by_cases hCall : ∃ c, d = .call c
      · rcases hCall with ⟨c, rfl⟩
        refine
          ⟨t.client.tally, rest, .call c false :: t.seen,
            hDuties.2, ?_⟩
        intro now begun alive held
        rw [hStep, run]
        exact
          handCall_of_deaf
            (t :=
              { t.stamp now begun alive held with
                agenda := rest })
            hBare.handlers c
      · refine
          ⟨(t.client.perform d).client.tally,
            (t.client.perform d).owed.map Task.owe ++ rest,
            ((t.client.perform d).remarks.map
                Observation.remark).reverse ++ t.seen,
            ?_, ?_⟩
        · intro task hMember
          rw [List.mem_append, List.mem_map] at hMember
          rcases hMember with ⟨d, _, rfl⟩ | hRest
          · rfl
          · exact hDuties.2 task hRest
        · intro now begun alive held
          have hRun :
              Turn.run
                  { t.stamp now begun alive held with
                    agenda := rest }
                  (.owe d) =
                Turn.take
                  { t.stamp now begun alive held with
                    agenda := rest }
                  (t.client.perform d) := by
            cases d with
            | call c => exact absurd ⟨c, rfl⟩ hCall
            | _ => rfl
          rw [hStep, hRun, take, t.client.client_perform d]
          rfl
  | _ => simp [Task.isDuty] at hDuties

/- The same can be said of all that is left to do. -/
theorem finish
    (hBare : t.IsBare) :
    ∃ tally seen scenes,
      ∀ now begun alive held,
        (t.stamp now begun alive held).finish =
            (t.stamp now begun alive held).advanced tally []
              seen ∧
          (t.stamp now begun alive held).ahead = scenes := by
  induction hWeight : t.weight using Nat.strong_induction_on
      generalizing t with
  | _ n ih =>
      by_cases hAgenda : t.agenda = []
      · refine ⟨t.client.tally, t.seen, [], ?_⟩
        intro now begun alive held
        have hStamped :
            (t.stamp now begun alive held).agenda = [] :=
          hAgenda
        refine ⟨?_, ahead_of_nil hStamped⟩
        rw [finish_of_agenda_eq_nil hStamped, advanced,
          ← hAgenda]
        rfl
      · rcases hBare.step hAgenda with
          ⟨tally, agenda, seen, hDuties, hStep⟩
        have hFirst : t.step = t.advanced tally agenda seen :=
          hStep t.now t.begun t.alive t.held
        have hLighter :
            (t.advanced tally agenda seen).weight < n := by
          rw [← hFirst, ← hWeight]
          exact weight_step_lt t hAgenda
        have hBare' : (t.advanced tally agenda seen).IsBare :=
          ⟨hBare.handlers, hDuties⟩
        rcases ih _ hLighter hBare' rfl with
          ⟨tally', seen', scenes, hRest⟩
        refine
          ⟨tally', seen',
            t.scene.next (t.advanced tally agenda seen).scene ++
              scenes,
            ?_⟩
        intro now begun alive held
        have hLater := hRest now begun alive held
        have hStamped :
            (t.stamp now begun alive held).agenda ≠ [] :=
          hAgenda
        constructor
        · rw [finish_eq_finish_step hStamped, hStep]
          exact hLater.1
        · rw [ahead_of_ne_nil hStamped, hStep]
          exact congrArg _ hLater.2

theorem finish_stamp
    (hBare : t.IsBare)
    (now : Time)
    (begun : Array UInt64)
    (alive held : Bool) :
    (t.stamp now begun alive held).finish =
      t.finish.stamp now begun alive held := by
  rcases hBare.finish with ⟨tally, seen, _, hFinish⟩
  have hOwn :
      t.finish = t.advanced tally [] seen :=
    (hFinish t.now t.begun t.alive t.held).1
  rw [hOwn]
  exact (hFinish now begun alive held).1

theorem ahead_stamp
    (hBare : t.IsBare)
    (now : Time)
    (begun : Array UInt64)
    (alive held : Bool) :
    (t.stamp now begun alive held).ahead = t.ahead := by
  rcases hBare.finish with ⟨_, _, scenes, hFinish⟩
  have hOwn : t.ahead = scenes :=
    (hFinish t.now t.begun t.alive t.held).2
  rw [hOwn]
  exact (hFinish now begun alive held).2

/- Duties change nothing but the counters. -/
theorem finish_eq
    (hBare : t.IsBare) :
    ∃ tally seen, t.finish = t.advanced tally [] seen := by
  rcases hBare.finish with ⟨tally, seen, _, hFinish⟩
  exact
    ⟨tally, seen, (hFinish t.now t.begun t.alive t.held).1⟩

end IsBare

end Turn

------------------------------------------------------------
-- Outlooks
------------------------------------------------------------

namespace Turn

/- What comes of a turn if nobody listens any more. -/
def outlook (t : Turn) : Turn :=
  t.unheard.finish

variable {t : Turn}
variable {task : Task}
variable {rest : List Task}

theorem agenda_outlook (t : Turn) : t.outlook.agenda = [] :=
  agenda_finish t.unheard

theorem outlook_of_duties_eq_nil
    (hDone : Task.duties t.agenda = []) :
    t.outlook = t.unheard :=
  finish_of_agenda_eq_nil hDone

/- What comes of a turn is the turn with more counted. -/
theorem outlook_eq (t : Turn) :
    ∃ tally seen, t.outlook = t.unheard.advanced tally [] seen :=
  t.isBare_unheard.finish_eq

theorem unheard_outlook (t : Turn) :
    t.outlook.unheard = t.outlook := by
  have hEnd :
      t.outlook.IsBare ∧ t.outlook.unheard = t.outlook := by
    refine
      finish_induction
        (P := fun u => u.IsBare ∧ u.unheard = u) ?_
        ⟨t.isBare_unheard, t.unheard_unheard⟩
    rintro u ⟨hBare, hUnheard⟩
    cases hAgenda : u.agenda with
    | nil =>
        rw [step_idle hAgenda]
        exact ⟨hBare, hUnheard⟩
    | cons task rest =>
        have hDuties := hBare.agenda
        rw [hAgenda, List.forall_mem_cons] at hDuties
        cases task with
        | owe d =>
            have hStep := unheard_step_of_owe hAgenda
            rw [hUnheard] at hStep
            refine ⟨?_, hStep⟩
            rw [← hStep]
            exact u.step.isBare_unheard
        | _ => simp [Task.isDuty] at hDuties
  exact hEnd.2

/- A step takes nothing back that was observed. -/
theorem seen_suffix_step (t : Turn) : t.seen <:+ t.step.seen := by
  have hChange : t.Change t.step := t.change_move .step
  cases hChange with
  | pass _ _ _ hSeen => rw [hSeen]
  | begin _ _ _ _ _ _ _ hSeen =>
      rw [hSeen]
      exact List.suffix_cons _ _
  | hand _ _ _ _ _ _ _ _ hSeen =>
      rw [hSeen]
      exact List.suffix_cons _ _
  | aside _ _ _ _ _ _ _ _ hSeen =>
      rw [hSeen]
      exact List.suffix_append _ _
  | take _ _ _ _ _ _ _ _ _ hSeen =>
      rw [hSeen]
      exact List.suffix_append _ _

theorem seen_suffix_finish (t : Turn) :
    t.seen <:+ t.finish.seen := by
  refine
    finish_induction
      (P := fun u => t.seen <:+ u.seen) ?_
      (List.suffix_refl _)
  exact fun u hBefore => hBefore.trans u.seen_suffix_step

/- The calls so far are the first ones of all that come. -/
theorem emissions_prefix_outlook (t : Turn) :
    t.emissions <+: t.outlook.emissions := by
  have hSeen : t.unheard.seen <:+ t.outlook.seen :=
    t.unheard.seen_suffix_finish
  have hEarly : t.unheard.emissions = t.emissions :=
    hearings_unheard t
  rw [← hEarly]
  exact
    ((List.reverse_prefix.mpr hSeen).filterMap
      Observation.heard?).map Prod.fst

end Turn

end EventFeed
