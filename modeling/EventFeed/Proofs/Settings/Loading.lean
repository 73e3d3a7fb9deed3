import EventFeed.Settings.File
import Mathlib

/-
  This file says what loading makes of the settings in a file.

  The file decides whether there are settings at all, and the
  token of the environment has a say on nothing but the
  credential, and on that only if the file gives none.

  Key definitions include:
    * `Settings.tokenOf`

  Key results include:
    * `Settings.load_toUTF8`
    * `Settings.load_toUTF8_of_none`
    * `Settings.load_eq_map`
    * `Settings.withToken_of_some`
    * `Settings.withToken_of_none`
-/

------------------------------------------------------------
-- Tokens
------------------------------------------------------------

namespace EventFeed

namespace Settings

/- The credential that a token stands for, unless it is blank. -/
def tokenOf (token : Option String) : Option String :=
  token.filter fun t => !Text.isBlankText t

variable {s : Settings}

/- A credential of the file stays. -/
theorem withToken_of_some
    {credential : String}
    (hCredential : s.credential = some credential)
    (token : Option String) :
    s.withToken token = s := by
  unfold withToken
  rw [hCredential]

/- A token takes the place of one that is not given. -/
theorem withToken_of_none
    (hCredential : s.credential = none)
    (token : Option String) :
    s.withToken token =
      { s with credential := tokenOf token } := by
  unfold withToken
  rw [hCredential]
  rfl

/- Without a token everything stays. -/
theorem withToken_none (s : Settings) :
    s.withToken none = s := by
  cases hCredential : s.credential with
  | some credential => exact withToken_of_some hCredential none
  | none =>
      rw [withToken_of_none hCredential]
      cases s
      simp_all [tokenOf]

/- A token has a say on nothing but the credential. -/
theorem others_withToken
    (s : Settings)
    (token : Option String) :
    { s.withToken token with credential := s.credential } =
      s := by
  cases hCredential : s.credential with
  | some credential =>
      rw [withToken_of_some hCredential, ← hCredential]
  | none =>
      rw [withToken_of_none hCredential, ← hCredential]

------------------------------------------------------------
-- Loading
------------------------------------------------------------

/- The bytes of a text are read as that text. -/
theorem textOf_toUTF8 (text : String) :
    textOf text.toUTF8 = .ok text := by
  have hValid : text.toUTF8.IsValidUTF8 := text.isValidUTF8
  have hText : String.fromUTF8? text.toUTF8 = some text := by
    unfold String.fromUTF8?
    rw [dif_pos hValid]
    rfl
  unfold textOf
  rw [hText]

/- What a text gives is what its fields give. -/
theorem ofYaml?_of_fields?
    {text : String}
    {fields : List Yaml.Field}
    (hFields : Yaml.fields? text = some fields) :
    ofYaml? text = ofFields? fields := by
  unfold ofYaml?
  rw [hFields]
  rfl

/- What a text gives is what is read from it. -/
theorem ofText_of_ofYaml?
    (diagnose : String → String)
    {text : String}
    (hRead : ofYaml? text = some s) :
    ofText diagnose text = .ok s := by
  unfold ofText
  rw [hRead]

/- A text that gives nothing is diagnosed. -/
theorem ofText_of_none
    (diagnose : String → String)
    {text : String}
    (hRead : ofYaml? text = none) :
    ofText diagnose text = .error (unreadable (diagnose text)) := by
  unfold ofText
  rw [hRead]

/- What is loaded is what the text gives, with the token. -/
theorem load_toUTF8
    (diagnose : String → String)
    (path text : String)
    (token : Option String) :
    load diagnose path (.ok text.toUTF8) token =
      (ofText diagnose text).map fun s => s.withToken token := by
  have hBind :
      (Except.ok text.toUTF8).bind textOf = .ok text :=
    textOf_toUTF8 text
  unfold load
  rw [hBind]

/- Of a text that gives nothing its diagnosis is loaded. -/
theorem load_toUTF8_of_none
    (diagnose : String → String)
    (path : String)
    {text : String}
    (hRead : ofYaml? text = none)
    (token : Option String) :
    load diagnose path (.ok text.toUTF8) token =
      .error (unreadable (diagnose text)) := by
  rw [load_toUTF8, ofText_of_none diagnose hRead]
  rfl

/- A text that gives a URL and leaves the rest as usual. -/
theorem ofYaml?_url :
    ofYaml? "url: http://[::1]/" =
      some (ofUrl "http://[::1]/") := by
  cbv

/- The token is looked at once the file has been read. -/
theorem load_eq_map
    (diagnose : String → String)
    (path : String)
    (content : Except FileFault ByteArray)
    (token : Option String) :
    load diagnose path content token =
      (load diagnose path content none).map fun s =>
        s.withToken token := by
  unfold load
  cases content.bind textOf with
  | error fault => rfl
  | ok text =>
      simp only []
      cases ofText diagnose text with
      | error e => rfl
      | ok s =>
          simp only [Except.map]
          rw [s.withToken_none]

end Settings

end EventFeed
