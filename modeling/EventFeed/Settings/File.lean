import EventFeed.Builder
import EventFeed.Log
import EventFeed.Settings.Yaml

/-
  This file defines the loading of settings from a file.

  The file has the first word on the credential.  When it
  gives none, a token of the environment takes its place,
  unless that is blank.

  Key definitions include:
    * `FileFault`
    * `Settings.withToken`
    * `Settings.load`
-/

------------------------------------------------------------
-- Files
------------------------------------------------------------

namespace EventFeed

/- Why a file has no text. -/
inductive FileFault
  /- there is no such file -/
  | missing
  /- there is a directory -/
  | directory
  /- the bytes of the file are no text -/
  | encoding
  /- anything else, in the words of the system -/
  | other (words : String)
deriving DecidableEq, Inhabited, Repr

namespace FileFault

/- The fault in words. -/
def message : FileFault → String
  | missing => "No such file or directory (os error 2)"
  | directory => "Is a directory (os error 21)"
  | encoding => "stream did not contain valid UTF-8"
  | other words => words

end FileFault

------------------------------------------------------------
-- Loading
------------------------------------------------------------

namespace Settings

/- The variable that may hold a token. -/
def tokenVariable : String :=
  "NOTIFICATION_BEARER_TOKEN"

/- Let a token fill in for a credential that is not given. -/
def withToken
    (s : Settings)
    (token : Option String) : Settings :=
  match s.credential with
  | some _ => s
  | none =>
      { s with
        credential := token.filter fun t =>
          !Text.isBlankText t }

/- What is logged when settings are loaded from a path. -/
def loadedLine (s : Settings) (path : String) : LogLine :=
  ⟨.info, .settings,
    "Loaded stream settings from " ++ path ++
      " (credential: " ++
      (if s.credential.isSome then "yes" else "no") ++ ")"⟩

/- The error for a file that has no text. -/
def fileError (path : String) (fault : FileFault) : FeedError :=
  .configuration
    ("Failed to load config file " ++ path ++ ": " ++
      fault.message)

/- The text of a file, if its bytes are one. -/
def textOf (bytes : ByteArray) : Except FileFault String :=
  match String.fromUTF8? bytes with
  | some text => .ok text
  | none => .error .encoding

/- Load settings from the content of the file at a path. -/
def load
    (diagnose : String → String)
    (path : String)
    (content : Except FileFault ByteArray)
    (token : Option String) : Except FeedError Settings :=
  match content.bind textOf with
  | .error fault => .error (fileError path fault)
  | .ok text =>
      (ofText diagnose text).map fun s => s.withToken token

/- The options that the settings leave a client with. -/
def draft (s : Settings) : Draft :=
  Options.default.withSettings s

end Settings

end EventFeed
