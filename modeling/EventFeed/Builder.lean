import EventFeed.Client.Basic
import EventFeed.Settings
import EventFeed.Text.Blank
import EventFeed.Url.Parser

/-
  This file defines the building of clients.

  A draft collects options; the last word on each counts.
  Only a draft with an address can be built, and building
  checks the address, the silence that is borne and the
  credential, in this order.  A recipe is all that is said
  until then.

  Key definitions include:
    * `Setter`
    * `Options`
    * `Options.set`
    * `Draft`
    * `Options.withUrl`
    * `Options.withSettings`
    * `ConfigError`
    * `Draft.config`
    * `Draft.build`
    * `Basis`
    * `Recipe`
    * `Recipe.build`
-/

------------------------------------------------------------
-- Options
------------------------------------------------------------

namespace EventFeed

/- A word on one option. -/
inductive Setter
  | credential (c : String)
  | autoReconnect (on : Bool)
  | reconnectInterval (s : Span)
  | maxAttempts (n : UInt32)
  | pingTimeout (s : Span)
deriving DecidableEq, Inhabited, Repr

/- The options of a client. -/
structure Options where
  credential : Option String
  autoReconnect : Bool
  reconnectInterval : Span
  maxAttempts : Option UInt32
  pingTimeout : Span
deriving DecidableEq, Inhabited, Repr

namespace Options

/- The options on which nobody has had a word. -/
def default : Options where
  credential := none
  autoReconnect := true
  reconnectInterval := Config.defaultInterval
  maxAttempts := none
  pingTimeout := Config.defaultTimeout

/- Have a word on one option. -/
def set (o : Options) : Setter → Options
  | .credential c => { o with credential := some c }
  | .autoReconnect on => { o with autoReconnect := on }
  | .reconnectInterval s => { o with reconnectInterval := s }
  | .maxAttempts n => { o with maxAttempts := some n }
  | .pingTimeout s => { o with pingTimeout := s }

/- Have several words, one after the other. -/
def setAll (o : Options) (words : List Setter) : Options :=
  words.foldl set o

end Options

------------------------------------------------------------
-- Drafts
------------------------------------------------------------

/- Options together with the address of the feed. -/
structure Draft where
  url : String
  options : Options
deriving DecidableEq, Inhabited, Repr

namespace Draft

/- Have several words on the options of a draft. -/
def setAll (d : Draft) (words : List Setter) : Draft :=
  { d with options := d.options.setAll words }

end Draft

namespace Options

/- Give the options an address. -/
def withUrl (o : Options) (url : String) : Draft :=
  ⟨url, o⟩

/-
  Take the address and every option from settings.  What they
  leave out, a credential or a ceiling, is taken back.
-/
def withSettings (o : Options) (s : Settings) : Draft :=
  let given :=
    (o.withUrl s.url).setAll
      [.autoReconnect s.autoReconnect,
        .reconnectInterval s.reconnectInterval.toNat,
        .pingTimeout s.pingTimeout.toNat]
  { given with
    options :=
      { given.options with
        maxAttempts := s.maxAttempts
        credential := s.credential } }

end Options

------------------------------------------------------------
-- Errors
------------------------------------------------------------

/- Why no client can be built. -/
inductive ConfigError
  /- there is no address -/
  | noAddress
  /- the address cannot be read -/
  | badAddress (address : String) (why : Url.Error)
  /- the address is not one on the web -/
  | badScheme (scheme : String)
  /- no silence at all is borne -/
  | noTimeout
  /- the credential is nothing but blanks -/
  | blankCredential
  /- there is nothing to run the client on -/
  | noRuntime
deriving DecidableEq, Inhabited, Repr

namespace ConfigError

/- The reason in words. -/
def message : ConfigError → String
  | noAddress => "Target address is required"
  | badAddress address why =>
      "Invalid target address '" ++ address ++ "': " ++
        why.message
  | badScheme scheme =>
      "Unsupported scheme '" ++ scheme ++
        "', expected http or https"
  | noTimeout => "Ping timeout must be > 0"
  | blankCredential => "Credential must not be blank"
  | noRuntime =>
      "No Tokio runtime available: there is no reactor " ++
        "running, must be called from the context of a " ++
        "Tokio 1.x runtime"

/- The reason as an error of the feed. -/
def error (e : ConfigError) : FeedError :=
  .configuration e.message

end ConfigError

------------------------------------------------------------
-- Building
------------------------------------------------------------

/- Read the address of a feed. -/
def readAddress (text : String) : Except ConfigError Url :=
  let address := Text.trimmed text
  if address = "" then
    .error .noAddress
  else
    match Url.parse address with
    | .error why => .error (.badAddress address why)
    | .ok (.other scheme) => .error (.badScheme scheme)
    | .ok (.web url) => .ok url

namespace Draft

/- The configuration that a draft stands for. -/
def config (d : Draft) : Except ConfigError Config := do
  let url ← readAddress d.url
  if d.options.pingTimeout = 0 then
    throw .noTimeout
  if (d.options.credential.map Text.isBlankText).getD false then
    throw .blankCredential
  return {
    url := url
    credential := d.options.credential
    autoReconnect := d.options.autoReconnect
    reconnectInterval := d.options.reconnectInterval
    maxAttempts := d.options.maxAttempts
    pingTimeout := d.options.pingTimeout }

/- Build a client, where there is something to run it on. -/
def build
    (d : Draft)
    (runtime : Bool) : Except ConfigError Client := do
  let config ← d.config
  if runtime then
    return Client.new config
  else
    throw .noRuntime

end Draft

------------------------------------------------------------
-- Recipes
------------------------------------------------------------

/- What a draft has its address from. -/
inductive Basis
  | url (text : String)
  | settings (s : Settings)
deriving DecidableEq, Inhabited, Repr

/- Make options a draft. -/
def Options.withBasis (o : Options) : Basis → Draft
  | .url text => o.withUrl text
  | .settings s => o.withSettings s

/- All that is said before a client is built. -/
structure Recipe where
  before : List Setter
  basis : Basis
  after : List Setter
deriving DecidableEq, Inhabited, Repr

namespace Recipe

/- Say it all, one thing after the other. -/
def draft (r : Recipe) : Draft :=
  ((Options.default.setAll r.before).withBasis r.basis).setAll
    r.after

/- Build a client once all is said. -/
def build
    (r : Recipe)
    (runtime : Bool) : Except ConfigError Client :=
  r.draft.build runtime

end Recipe

end EventFeed
