import EventFeed.Proofs.Client.Carriers
import EventFeed.Proofs.Settings.Loading
import EventFeed.Proofs.Settings.Verdict

/-
  This file follows the choice of a transport from a file of
  settings to the attempts of the client built from it.

  A credential of the file is in force if there is one, and a
  token of the environment takes its place if there is none.
  A token that is blank is none, so what building says of the
  settings never depends on the environment.

  Key definitions include:
    * `Settings.InForce`
    * `Settings.Decided`

  Key results include:
    * `Draft.presents_of_build`
    * `Draft.build_eq_error_iff`
    * `Settings.presented`
-/

------------------------------------------------------------
-- Building
------------------------------------------------------------

namespace EventFeed

namespace Draft

variable {d : Draft}

/- A client presents the credential it was built with. -/
theorem presents_of_build
    {runtime : Bool}
    {client : Client}
    (hBuild : d.build runtime = .ok client) :
    client.config.Presents d.options.credential := by
  rcases d.eq_new_of_build_eq_ok runtime hBuild with
    ⟨url, -, rfl⟩
  exact (d.configAt url).presents

/- Whether the credential of a draft is there and blank. -/
def isBlank (d : Draft) : Bool :=
  (d.options.credential.map Text.isBlankText).getD false

/- No client is built with a blank credential. -/
theorem build_of_isBlank
    (hBlank : d.isBlank = true)
    (runtime : Bool) :
    ∃ e, d.build runtime = .error e := by
  rcases d.build_cases runtime with
    ⟨e, hBuild, -⟩ | ⟨url, -, -, hNone⟩
  · exact ⟨e, hBuild⟩
  · have hAcceptable : d.Acceptable runtime :=
      acceptable_iff_fault.mpr hNone
    have hCredential := hAcceptable.fault_eq_none .credential
    rw [fault_credential] at hCredential
    unfold isBlank at hBlank
    rw [if_pos hBlank] at hCredential
    cases hCredential

/- The draft with another credential, or none. -/
def withCredential
    (d : Draft)
    (credential : Option String) : Draft :=
  { d with
    options := { d.options with credential := credential } }

/-
  One credential is as good as another, or as none, if all
  or none of them are blank.
-/
theorem fault_withCredential
    {credential : Option String}
    (hBlank : (d.withCredential credential).isBlank = d.isBlank)
    (runtime : Bool) :
    (d.withCredential credential).fault? runtime =
      d.fault? runtime := by
  have hSame :
      Check.fault? (d.withCredential credential) runtime =
        Check.fault? d runtime := by
    funext check
    cases check with
    | given => rfl
    | readable => simp only [Check.fault?, withCredential]
    | web => simp only [Check.fault?, withCredential]
    | timeout => rfl
    | credential =>
        rw [fault_credential, fault_credential]
        show
          (if (d.withCredential credential).isBlank then
              some ConfigError.blankCredential
            else none) =
            if d.isBlank then some .blankCredential else none
        rw [hBlank]
    | runtime => rfl
  unfold fault?
  rw [hSame]

theorem build_eq_error_iff
    {credential : Option String}
    (hBlank : (d.withCredential credential).isBlank = d.isBlank)
    (runtime : Bool)
    (e : ConfigError) :
    (d.withCredential credential).build runtime = .error e ↔
      d.build runtime = .error e := by
  rw [build_eq_error_iff_fault, build_eq_error_iff_fault,
    fault_withCredential hBlank]

end Draft

end EventFeed

------------------------------------------------------------
-- Credentials in Force
------------------------------------------------------------

namespace EventFeed

namespace Settings

/-
  The credential in force: that of the file, if it gives one,
  and otherwise a token that is not blank.
-/
inductive InForce
    (s : Settings)
    (token : Option String) :
    Option String → Prop
  | file
      (c : String)
      (hFile : s.credential = some c) :
      InForce s token (some c)
  | environment
      (c : String)
      (hFile : s.credential = none)
      (hToken : token = some c)
      (hBlank : Text.isBlankText c = false) :
      InForce s token (some c)
  | nothing
      (hFile : s.credential = none)
      (hToken :
        ∀ c, token = some c → Text.isBlankText c = true) :
      InForce s token none

variable (s : Settings)
variable (token : Option String)

theorem inForce_withToken :
    s.InForce token (s.withToken token).credential := by
  cases hFile : s.credential with
  | some c =>
      rw [withToken_of_some hFile, hFile]
      exact .file c hFile
  | none =>
      rw [withToken_of_none hFile]
      cases token with
      | none =>
          apply InForce.nothing hFile
          simp
      | some c =>
          cases hBlank : Text.isBlankText c with
          | false =>
              simp only [tokenOf, Option.filter_some, hBlank]
              exact .environment c hFile rfl hBlank
          | true =>
              simp only [tokenOf, Option.filter_some, hBlank]
              apply InForce.nothing hFile
              intro c' hToken
              cases hToken
              exact hBlank

/- The draft of settings with a token. -/
theorem draft_withToken :
    (s.withToken token).draft =
      s.draft.withCredential (s.withToken token).credential := by
  have hDraft :
      { s.withToken token with
        credential := s.credential }.draft = s.draft := by
    rw [others_withToken]
  rw [← hDraft]
  rfl

/- A token that fills in is never blank. -/
theorem isBlank_withToken :
    (s.withToken token).draft.isBlank = s.draft.isBlank := by
  have hInForce := s.inForce_withToken token
  unfold Draft.isBlank
  show
    ((s.withToken token).credential.map _).getD false =
      (s.credential.map _).getD false
  generalize (s.withToken token).credential = credential
    at hInForce ⊢
  cases hInForce with
  | file c hFile => rw [hFile]
  | environment c hFile hToken hBlank => simp [hFile, hBlank]
  | nothing hFile => rw [hFile]

------------------------------------------------------------
-- From a File to Attempts
------------------------------------------------------------

/-
  What comes of settings once they are loaded: the credential
  in force is settled and all else is as in the file, building
  goes as it would without a token, and every attempt of what
  is built presents that credential.
-/
structure Decided (loaded : Settings) : Prop where
  others : { loaded with credential := s.credential } = s
  credential : s.InForce token loaded.credential
  refused :
    ∀ runtime e,
      loaded.draft.build runtime = .error e ↔
        s.draft.build runtime = .error e
  blank :
    ∀ c,
      s.credential = some c → Text.isBlankText c = true →
        ∀ runtime, ∃ e, loaded.draft.build runtime = .error e
  attempts :
    ∀ runtime client,
      loaded.draft.build runtime = .ok client →
        client.config.Presents loaded.credential

theorem decided_withToken :
    s.Decided token (s.withToken token) where
  others := s.others_withToken token
  credential := s.inForce_withToken token
  refused := by
    have hBlank := s.isBlank_withToken token
    rw [draft_withToken] at hBlank ⊢
    exact Draft.build_eq_error_iff hBlank
  blank := by
    intro c hFile hBlank
    apply Draft.build_of_isBlank
    rw [isBlank_withToken]
    show (s.credential.map _).getD false = true
    rw [hFile]
    exact hBlank
  attempts := fun _ _ => Draft.presents_of_build

/-
  A file of settings and the environment decide on what every
  attempt presents, and a client that is built in another way
  has it decided by its draft.
-/
theorem presented
    (diagnose : String → String)
    (path : String)
    {text : String}
    {s : Settings}
    (hText : ofText diagnose text = .ok s)
    (token : Option String) :
    (∃ loaded,
        load diagnose path (.ok text.toUTF8) token =
            .ok loaded ∧
          s.Decided token loaded) ∧
      ∀ (d : Draft) runtime client,
        d.build runtime = .ok client →
          client.config.Presents d.options.credential := by
  refine ⟨⟨s.withToken token, ?_, s.decided_withToken token⟩, ?_⟩
  · rw [load_toUTF8, hText]
    rfl
  · exact fun _ _ _ => Draft.presents_of_build

/-
  The file gives no credential but the environment does, and
  an attempt is started.
-/
theorem presented_token :
    ∃ loaded client,
      load id "feed.yaml" (.ok "url: http://[::1]/".toUTF8)
            (some "secret") =
          .ok loaded ∧
        loaded.draft.build true = .ok client ∧
        ((Turn.equipped client.config Registry.empty).follow
            [.act .connect, .step]).starts = 1 ∧
        client.config.Presents (some "secret") := by
  have hBuilt :
      (((ofUrl "http://[::1]/").withToken
          (some "secret")).draft.build true).toOption.isSome =
        true := by
    decide +kernel
  have hText := ofText_of_ofYaml? id ofYaml?_url
  rcases presented id "feed.yaml" hText (some "secret") with
    ⟨⟨loaded, hLoad, hDecided⟩, -⟩
  have hLoaded :
      (ofUrl "http://[::1]/").withToken (some "secret") =
        loaded := by
    rw [load_toUTF8, hText] at hLoad
    exact Except.ok.inj hLoad
  cases hBuild : loaded.draft.build true with
  | error e =>
      rw [hLoaded, hBuild] at hBuilt
      contradiction
  | ok client =>
      have hCredential : loaded.credential = some "secret" := by
        rw [← hLoaded]
        decide
      have hPresents := hDecided.attempts true client hBuild
      rw [hCredential] at hPresents
      exact
        ⟨loaded, client, hLoad, hBuild, rfl, hPresents⟩

end Settings

end EventFeed
