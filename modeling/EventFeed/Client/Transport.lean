import EventFeed.Text.Form

/-
  This file defines the two ways to carry a feed: natively,
  without any credential, or authenticated by one.

  A client is built with a native transport and, if it has a
  credential, with an authenticated one.  Either may be a
  substitute that somebody else provides.

  Key definitions include:
    * `Transports`
    * `Transports.select`
    * `Transports.assemble`
    * `Transport`
    * `Transport.ofCredential`
    * `Transport.Kind`
    * `redacted`
-/

------------------------------------------------------------
-- Selection
------------------------------------------------------------

namespace EventFeed

/- The transports that a client has at hand. -/
structure Transports (α : Type) where
  native : α
  authenticated : Option α
deriving DecidableEq, Inhabited, Repr

/- Transports that take the place of the client's own. -/
structure Substitutes (α : Type) where
  native : Option α
  authenticated : Option α
deriving DecidableEq, Inhabited, Repr

/- Nobody provides any. -/
def Substitutes.none (α : Type) : Substitutes α :=
  ⟨.none, .none⟩

namespace Transports

variable {α : Type}

/-
  The transport of every attempt of a client: the
  authenticated one if there is a credential, as long as it is
  at hand, and the native one otherwise.
-/
def select
    (t : Transports α)
    (credential : Option String) : α :=
  match credential, t.authenticated with
  | some _, some transport => transport
  | _, _ => t.native

/-
  What a client is built with.  Its own authenticated
  transport is there only if there is a credential for it.
-/
def assemble
    (credential : Option String)
    (given : Substitutes α)
    (native : α)
    (authenticated : String → α) : Transports α where
  native := given.native.getD native
  authenticated :=
    given.authenticated.orElse fun _ =>
      credential.map authenticated

end Transports

end EventFeed

------------------------------------------------------------
-- Transports
------------------------------------------------------------

namespace EventFeed

/- What stands for a credential wherever one is described. -/
def redacted : String :=
  "<redacted>"

/- How an attempt reaches the server. -/
inductive Transport
  | native
  | authenticated (credential : String)
deriving DecidableEq, Inhabited, Repr

namespace Transport

/- The kinds of transport. -/
inductive Kind
  | native
  | authenticated
deriving DecidableEq, Inhabited, Repr

/- The kind in lower case. -/
def Kind.name : Kind → String
  | .native => "native"
  | .authenticated => "authenticated"

/- The kind as a described value. -/
def Kind.described : Kind → String
  | .native => "Native"
  | .authenticated => "Authenticated"

/-
  The transport that a credential, or its absence, asks for
  where there are no substitutes.
-/
def ofCredential (credential : Option String) : Transport :=
  (Transports.assemble credential (Substitutes.none Transport)
    native authenticated).select credential

/- The kind of a transport. -/
def kind : Transport → Kind
  | native => .native
  | authenticated _ => .authenticated

/- A transport as a described value; it keeps its secret. -/
def described : Transport → String
  | native => "NativeTransport"
  | authenticated _ =>
      Text.Form.named "AuthenticatedTransport"
        [("credential", Text.quoted redacted)]

end Transport

end EventFeed
