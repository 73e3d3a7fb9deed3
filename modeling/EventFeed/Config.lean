import EventFeed.Client.Transport
import EventFeed.Time
import EventFeed.Url.Basic

/-
  This file defines the configuration of a client.

  Key definitions include:
    * `Config`
    * `Config.transport`
    * `Config.described`
-/

------------------------------------------------------------
-- Configuration
------------------------------------------------------------

namespace EventFeed

/-
  What a client was built with.  A credential asks for the
  authenticated transport; without a ceiling the attempts to
  recover are unlimited.
-/
structure Config where
  url : Url
  credential : Option String
  autoReconnect : Bool
  reconnectInterval : Span
  maxAttempts : Option UInt32
  pingTimeout : Span
deriving DecidableEq, Inhabited, Repr

namespace Config

/- The pause before a reconnect unless another is asked for. -/
def defaultInterval : Span :=
  3000

/- The silence that is borne unless another is asked for. -/
def defaultTimeout : Span :=
  30000

/- The transport of every attempt. -/
def transport (c : Config) : Transport :=
  Transport.ofCredential c.credential

/- The configuration as a described value, without secrets. -/
def described (c : Config) : String :=
  Text.Form.named "ClientConfig"
    [("url", Text.quoted c.url.text),
      ("credential",
        Text.Form.option
          (c.credential.map fun _ => Text.quoted redacted)),
      ("auto_reconnect", Text.Form.truth c.autoReconnect),
      ("reconnect_interval", Span.text c.reconnectInterval),
      ("max_reconnect_attempts",
        Text.Form.option
          (c.maxAttempts.map fun n => toString n.toNat)),
      ("ping_timeout", Span.text c.pingTimeout)]

end Config

end EventFeed
