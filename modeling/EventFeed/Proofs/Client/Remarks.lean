import EventFeed.Proofs.Client.Effect

/-
  This file says what the operations of a client remark on.

  They name the kind of the client's own transport and no
  other one, and they never remark that a handler failed: an
  operation does not call the handlers, it only owes them
  calls.

  Key definitions include:
    * `Remark.isOwn`

  Key results include:
    * `Effect.own`
-/

------------------------------------------------------------
-- Remarks of Operations
------------------------------------------------------------

namespace EventFeed

/-
  Whether an operation of a client may remark on it, if the
  transport of the client is of this kind.
-/
def Remark.isOwn (kind : Transport.Kind) : Remark → Bool
  | .connecting _ other => other == kind
  | .starting other _ => other == kind
  | .panicked _ => false
  | _ => true

section

variable {kind : Transport.Kind}

theorem Remark.isOwn_of_isStale
    {r : Remark}
    (hStale : r.isStale = true) :
    r.isOwn kind = true := by
  cases r <;> first | rfl | contradiction

theorem Forewarning.own
    {remarks : List Remark}
    (hBefore : Forewarning remarks) :
    remarks.all (Remark.isOwn kind) = true := by
  cases hBefore <;> rfl

theorem Client.own_deliveryRemark (e : Event) :
    (Client.deliveryRemark e).isOwn kind = true := by
  unfold Client.deliveryRemark
  split <;> rfl

namespace Link

variable (l : Link)

theorem own_enterRemarks (next : Phase) :
    (l.enterRemarks next).all (Remark.isOwn kind) = true := by
  unfold enterRemarks
  split <;> rfl

theorem own_start
    (config : Config)
    (now : Time) :
    (l.start config now).2.all
        (Remark.isOwn config.transport.kind) =
      true := by
  simp [start, own_enterRemarks, Remark.isOwn]

theorem EndsWith.own
    {l : Link}
    {config : Config}
    {why : Remark}
    (hWhy : l.EndsWith config why) :
    why.isOwn kind = true := by
  cases hWhy <;> rfl

end Link

end

/- An operation keeps to what it may remark on. -/
theorem Effect.own
    {now : Time}
    {begun : Array UInt64}
    {c : Client}
    {task : Task}
    {o : Outcome}
    (hEffect : Effect now begun c task o) :
    o.remarks.all (Remark.isOwn c.config.transport.kind) =
      true := by
  cases hEffect with
  | nothing task remarks hStale =>
      rw [List.all_eq_true]
      exact fun r hMember =>
        Remark.isOwn_of_isStale (hStale r hMember)
  | connect hPhase =>
      rw [Client.connect_of_accepted now hPhase]
      simp [Link.own_start, Remark.isOwn]
  | disconnect =>
      simp [Client.disconnect, Link.shut, Link.own_enterRemarks,
        Remark.isOwn]
  | opening =>
      simp [Client.opening, Link.openUp, Link.own_enterRemarks,
        Remark.isOwn]
  | event | delivery =>
      simp [Client.accept, Client.own_deliveryRemark]
  | error => rfl
  | detach => rfl
  | giveUp task before why hBefore hManual hPhase hWhy =>
      simp [Link.giveUp, Link.own_enterRemarks, hBefore.own,
        hWhy.own]
  | retry task before hBefore =>
      simp [Link.retry, Link.own_enterRemarks, hBefore.own,
        Remark.isOwn]
  | restart => simp [Link.own_start, Remark.isOwn]
  | countPing => rfl

end EventFeed
