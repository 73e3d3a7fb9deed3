import EventFeed.Text.Quoted
import EventFeed.Text.Form

/-
  This file defines where a program looks for its settings.

  Key definitions include:
    * `ConfigSource`
    * `ConfigSource.fromEnvironment`
    * `ConfigSource.resolve`
-/

------------------------------------------------------------
-- Sources of Settings
------------------------------------------------------------

namespace EventFeed

/- What a variable of the environment is set to. -/
abbrev Environment :=
  String → Option String

/- Where settings are kept. -/
inductive ConfigSource
  /- in the place meant for streams -/
  | stream
  /- in a place of its own -/
  | custom (path : String)
deriving DecidableEq, Inhabited, Repr

namespace ConfigSource

/- The path that is used when nobody names one. -/
def defaultPath : ConfigSource → String
  | stream => "config/stream_config.yaml"
  | custom path => path

/- The variable that may name a path. -/
def variableName : ConfigSource → String
  | stream => "STREAM_CONFIG_PATH"
  | custom _ => "CONFIG_PATH"

/- The path that the environment names, or the default. -/
def fromEnvironment
    (s : ConfigSource)
    (env : Environment) : String :=
  (env s.variableName).getD s.defaultPath

/- Whether an argument is an option and not a path. -/
def isOption (arg : String) : Bool :=
  arg.toList.head? == some '-'

/-
  The path of the settings: the first argument that is no
  option, else what the environment says, else the default.
-/
def resolve
    (s : ConfigSource)
    (args : List String)
    (env : Environment) : String :=
  match args.find? fun arg => !isOption arg with
  | some path => path
  | none => s.fromEnvironment env

/- The source as a described value. -/
def described : ConfigSource → String
  | stream => "Stream"
  | custom path => Text.Form.tuple "Custom" [Text.quoted path]

end ConfigSource

end EventFeed
