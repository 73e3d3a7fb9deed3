import EventFeed.Config
import EventFeed.Json.Printer

/-
  This file defines stream settings as they stand in a file.

  Key definitions include:
    * `Settings`
    * `Settings.json`
-/

------------------------------------------------------------
-- Settings
------------------------------------------------------------

namespace EventFeed

/- The settings of a feed; lengths of time are milliseconds. -/
structure Settings where
  url : String
  credential : Option String
  autoReconnect : Bool
  reconnectInterval : UInt64
  maxAttempts : Option UInt32
  pingTimeout : UInt64
deriving DecidableEq, Inhabited, Repr

namespace Settings

/- Settings for an address that leave all else as it is. -/
def ofUrl (url : String) : Settings where
  url := url
  credential := none
  autoReconnect := true
  reconnectInterval := UInt64.ofNat Config.defaultInterval
  maxAttempts := none
  pingTimeout := UInt64.ofNat Config.defaultTimeout

/- A whole number in JSON. -/
def jsonNumber (n : Nat) : Json :=
  .number ⟨false, Text.decimal n, none, none⟩

/- The settings as a JSON object. -/
def json (s : Settings) : Json :=
  .object
    [("url", .string s.url),
      ("credential",
        match s.credential with
        | some c => .string c
        | none => .null),
      ("auto_reconnect", .bool s.autoReconnect),
      ("reconnect_interval_ms",
        jsonNumber s.reconnectInterval.toNat),
      ("max_reconnect_attempts",
        match s.maxAttempts with
        | some n => jsonNumber n.toNat
        | none => .null),
      ("ping_timeout_ms", jsonNumber s.pingTimeout.toNat)]

end Settings

end EventFeed
