import EventFeed.Attempt.Network
import EventFeed.Proofs.Attempt.Crew
import EventFeed.Proofs.Client.Account
import EventFeed.Proofs.Client.Remarks

/-
  This file says what carries the attempts of a client.

  A client chooses a transport whenever it starts an attempt,
  from what it was built with.  Its credential never changes,
  so every attempt of every run is carried by the same one:
  what stands for the authenticated transport if there is a
  credential, and for the native one if not.

  Key definitions include:
    * `Turn.carriers`
    * `Observation.kind?`
    * `Config.Presents`

  Key results include:
    * `Transports.select_assemble_of_some`
    * `Transports.select_assemble_of_none`
    * `Turn.carriers_eq`
    * `Turn.labelled_equipped`
    * `Config.presents`
-/

------------------------------------------------------------
-- Selection
------------------------------------------------------------

namespace EventFeed

namespace Transports

variable {α : Type}

/-
  A client with a credential always has something at hand for
  the authenticated transport, and chooses it.
-/
theorem select_assemble_of_some
    (credential : String)
    (given : Substitutes α)
    (native : α)
    (authenticated : String → α) :
    (assemble (some credential) given native
        authenticated).select (some credential) =
      given.authenticated.getD (authenticated credential) := by
  unfold assemble select
  cases given.authenticated <;> rfl

/- A client without one never looks at it. -/
theorem select_assemble_of_none
    (given : Substitutes α)
    (native : α)
    (authenticated : String → α) :
    (assemble none given native authenticated).select none =
      given.native.getD native :=
  rfl

end Transports

theorem Transport.ofCredential_eq (credential : Option String) :
    ofCredential credential =
      (credential.map authenticated).getD native := by
  unfold ofCredential
  cases credential with
  | none =>
      rw [Transports.select_assemble_of_none]
      rfl
  | some c =>
      rw [Transports.select_assemble_of_some]
      rfl

end EventFeed

------------------------------------------------------------
-- Carriers
------------------------------------------------------------

namespace EventFeed

namespace Turn

variable {α : Type}

/-
  What carries the attempts that a run starts, first to last,
  if the client has these transports at hand.
-/
def carriers
    (transports : Transports α)
    (t : Turn) :
    List Move → List α
  | [] => []
  | m :: moves =>
      List.replicate ((t.move m).starts - t.starts)
          (transports.select t.client.config.credential) ++
        (t.move m).carriers transports moves

variable {t : Turn}

/- A client keeps the configuration it was built with. -/
theorem config_move
    (hOrderly : t.Orderly)
    (m : Move) :
    (t.move m).client.config = t.client.config := by
  rcases still_or_acted hOrderly (t.change_move m) with
    hStill | ⟨task, o, hActed⟩
  · exact hStill.config
  · rw [hActed.client]
    exact hActed.effect.config_eq

/-
  All attempts of a run are carried by one transport, which
  the credential of the client decides.
-/
theorem carriers_eq
    (transports : Transports α)
    (hOrderly : t.Orderly)
    (moves : List Move) :
    t.carriers transports moves =
      List.replicate ((t.follow moves).starts - t.starts)
        (transports.select t.client.config.credential) := by
  induction moves generalizing t with
  | nil => simp [carriers]
  | cons m moves ih =>
      have hNext : (t.move m).Orderly := orderly_move hOrderly m
      have hMove : t.starts ≤ (t.move m).starts :=
        countP_milestones_le_follow hOrderly Remark.isStart [m]
      have hRest :
          (t.move m).starts ≤
            ((t.move m).follow moves).starts :=
        countP_milestones_le_follow hNext Remark.isStart moves
      have hSum :
          ((t.move m).follow moves).starts - t.starts =
            (t.move m).starts - t.starts +
              (((t.move m).follow moves).starts -
                (t.move m).starts) := by
        omega
      rw [carriers, follow_cons, ih hNext,
        config_move hOrderly m, hSum, List.replicate_add]

end Turn

end EventFeed

------------------------------------------------------------
-- Kinds
------------------------------------------------------------

namespace EventFeed

/- The kind of transport that a remark names. -/
def Remark.kind? : Remark → Option Transport.Kind
  | .connecting _ kind => some kind
  | .starting kind _ => some kind
  | _ => none

/- The kind of transport that shows. -/
def Observation.kind? : Observation → Option Transport.Kind
  | .remark r => r.kind?
  | .began kind _ => some kind
  | _ => none

/- A client that keeps to its own names no other kind. -/
theorem Remark.kind_of_isOwn
    {kind other : Transport.Kind}
    {r : Remark}
    (hOwn : r.isOwn kind = true)
    (hKind : other ∈ r.kind?) :
    other = kind := by
  cases r with
  | connecting url named =>
      cases hKind
      simpa [isOwn] using hOwn
  | starting named url =>
      cases hKind
      simpa [isOwn] using hOwn
  | _ => contradiction

namespace Turn

/- What shows of a transport is of the client's own kind. -/
structure Labelled (config : Config) (t : Turn) : Prop where
  configured : t.client.config = config
  kind :
    ∀ o ∈ t.seen, ∀ kind ∈ o.kind?, kind = config.transport.kind

namespace Labelled

variable {config : Config}
variable {t t' : Turn}

/- What is new may show the kind of the client. -/
theorem of_seen
    (hLabelled : t.Labelled config)
    (hConfig : t'.client.config = t.client.config)
    (new : List Observation)
    (hNew :
      ∀ o ∈ new, ∀ kind ∈ o.kind?,
        kind = t.client.config.transport.kind)
    (hSeen : t'.seen = new ++ t.seen) :
    t'.Labelled config where
  configured := hConfig.trans hLabelled.configured
  kind := by
    rw [hSeen]
    intro o hMember
    rcases List.mem_append.mp hMember with hFirst | hOld
    · rw [← hLabelled.configured]
      exact hNew o hFirst
    · exact hLabelled.kind o hOld

theorem beginAttempt
    (hLabelled : t.Labelled config) :
    t.beginAttempt.Labelled config := by
  unfold Turn.beginAttempt
  split
  · split
    · refine hLabelled.of_seen rfl [.began _ _] ?_ rfl
      simp [Observation.kind?]
    · exact hLabelled
  · exact hLabelled

/- A change other than a beginning keeps to the kind. -/
theorem change
    (hLabelled : t.Labelled config)
    (hBegun : t'.begun = t.begun)
    (hChange : t.Change t') :
    t'.Labelled config := by
  cases hChange with
  | pass hClient _ hAgenda hSeen =>
      exact
        hLabelled.of_seen (by rw [hClient]) [] (by simp) hSeen
  | begin generation kind url hHeld hClient hMore =>
      rw [hBegun] at hMore
      have hSize := congrArg Array.size hMore
      simp at hSize
  | aside front back new hFree hUntouched hAgenda hFront hBack
      hSeen hNew =>
      refine hLabelled.of_seen hUntouched.config new ?_ hSeen
      intro o hMember kind hKind
      have hAside := hNew o hMember
      unfold Observation.isAside at hAside
      split at hAside <;> contradiction
  | hand c heard front back hCall hUntouched hAgenda hFront
      hSeen =>
      apply
        hLabelled.of_seen hUntouched.config [.call c heard] _
          hSeen
      simp [Observation.kind?]
  | take task back o hTask hCall hEffect hClient _ hAgenda
      hSeen =>
      have hConfig : t'.client.config = t.client.config := by
        rw [hClient]
        exact hEffect.config_eq
      apply hLabelled.of_seen hConfig _ _ hSeen
      intro observation hMember
      rw [List.mem_reverse, List.mem_map] at hMember
      rcases hMember with ⟨r, hRemark, rfl⟩
      have hOwn := List.all_eq_true.mp hEffect.own r hRemark
      exact fun kind => Remark.kind_of_isOwn hOwn

theorem move
    (hLabelled : t.Labelled config)
    (m : Move) :
    (t.move m).Labelled config := by
  by_cases hBegin : m = .begin
  · rw [hBegin]
    exact hLabelled.beginAttempt
  · apply hLabelled.change (begun_move_of_ne hBegin)
    exact t.change_move m

end Labelled

/- Along every run of a client it is of the same kind. -/
theorem labelled_equipped
    (config : Config)
    (handlers : Registry Handler)
    (moves : List Move) :
    ((equipped config handlers).follow moves).Labelled
      config := by
  apply follow_induction (fun _ m hBefore => hBefore.move m)
  exact ⟨rfl, by simp [equipped, fresh]⟩

end Turn

end EventFeed

------------------------------------------------------------
-- Attempts
------------------------------------------------------------

namespace EventFeed

/-
  Every attempt of every run presents a credential, or none
  at all.  Whatever the client was built with, what carries
  its attempts stands for the transport that is asked for,
  and never for the other one; and that is what shows.
-/
structure Config.Presents
    (config : Config)
    (credential : Option String) : Prop where
  carriers :
    ∀ (α : Type) (given : Substitutes α) (native : α)
        (authenticated : String → α) handlers moves,
      (Turn.equipped config handlers).carriers
          (Transports.assemble config.credential given native
            authenticated)
          moves =
        List.replicate
          ((Turn.equipped config handlers).follow moves).starts
          (credential.elim (given.native.getD native) fun c =>
            given.authenticated.getD (authenticated c))
  shown :
    ∀ handlers moves,
      ∀ o ∈ ((Turn.equipped config handlers).follow moves).seen,
        ∀ kind ∈ o.kind?,
          kind =
            if credential.isSome then .authenticated
            else .native
  course :
    Attempt.course config =
      credential.elim (Attempt.native config.url)
        (Attempt.authenticated config.url)
  requests :
    ∀ outcomes, ∀ r ∈ Http.Request.sent config outcomes,
      r.headers.lookup "authorization" =
        credential.map fun c => "Bearer " ++ c

/- A request presents the credential of its client. -/
theorem Config.authorization
    {config : Config}
    {outcomes : List Http.Outcome}
    {r : Http.Request}
    (hSent : r ∈ Http.Request.sent config outcomes) :
    r.headers.lookup "authorization" =
      config.credential.map fun c => "Bearer " ++ c := by
  rw [Http.Request.sent, List.mem_filterMap] at hSent
  rcases hSent with ⟨o, -, hSome⟩
  split at hSome
  · contradiction
  · unfold Http.Request.ofConfig? transport at hSome
    rw [Transport.ofCredential_eq] at hSome
    cases hCredential : config.credential with
    | none =>
        rw [hCredential] at hSome
        cases hSome
        rfl
    | some c =>
        rw [hCredential] at hSome
        simp only [Option.map_some, Option.getD_some] at hSome
        split at hSome
        · cases hSome
          rfl
        · contradiction

/- A client presents the credential of its configuration. -/
theorem Config.presents (config : Config) :
    config.Presents config.credential where
  carriers := by
    intro α given native authenticated handlers moves
    have hOrderly :
        (Turn.equipped config handlers).Orderly := by
      apply Turn.orderly_fresh config
    have hStart : (Turn.equipped config handlers).starts = 0 :=
      rfl
    have hConfig :
        (Turn.equipped config handlers).client.config =
          config := rfl
    rw [Turn.carriers_eq _ hOrderly, hStart, Nat.sub_zero,
      hConfig]
    cases config.credential with
    | none =>
        rw [Transports.select_assemble_of_none]
        rfl
    | some c =>
        rw [Transports.select_assemble_of_some]
        rfl
  shown := by
    intro handlers moves o hMember kind hKind
    have hLabelled :=
      Turn.labelled_equipped config handlers moves
    rw [hLabelled.kind o hMember kind hKind, transport,
      Transport.ofCredential_eq]
    cases config.credential <;> rfl
  course := by
    unfold Attempt.course transport
    rw [Transport.ofCredential_eq]
    cases config.credential <;> rfl
  requests := fun _ _ => authorization

end EventFeed
