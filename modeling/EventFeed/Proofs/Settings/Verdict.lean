import EventFeed.Builder
import Mathlib

/-
  This file says what building a draft comes to.

  Building goes through its checks and stops where one of them
  fails.  Here every check stands on its own: it says what is
  wrong with the draft as far as it is concerned, whatever the
  others find.  A draft is built just if no check finds a
  fault, and otherwise the reason is what the first one that
  fails has found.

  Key definitions include:
    * `Url.IsWebScheme`
    * `Draft.Acceptable`
    * `Draft.Check`
    * `Draft.Check.fault?`
    * `Draft.configAt`

  Key results include:
    * `Text.trimmed_eq_empty_iff`
    * `Url.not_isWebScheme_of_parse`
    * `Draft.acceptable_iff_fault`
    * `Draft.build_cases`
    * `Draft.build_eq_error_iff_fault`
    * `Draft.exists_build_eq_ok_iff`
    * `Draft.eq_new_of_build_eq_ok`
-/

------------------------------------------------------------
-- Blank Texts
------------------------------------------------------------

namespace EventFeed

namespace Text

/- Trimming leaves nothing of blanks, and of nothing else. -/
theorem trim_eq_nil_iff (cs : List Char) :
    trim cs = [] ↔ ∀ c ∈ cs, isBlank c = true := by
  unfold trim trimEnd trimStart
  rw [List.reverse_eq_nil_iff, List.dropWhile_eq_nil_iff]
  simp only [List.mem_reverse]
  constructor
  · intro hRest c hMember
    rw [← List.takeWhile_append_dropWhile (p := isBlank)
      (l := cs)] at hMember
    -- What comes before the first other character is blank.
    rcases List.mem_append.mp hMember with hFirst | hLater
    · exact List.mem_takeWhile_imp hFirst
    · exact hRest c hLater
  · intro hAll c hMember
    exact hAll c ((List.dropWhile_sublist isBlank).mem hMember)

theorem trimmed_eq_empty_iff (s : String) :
    trimmed s = "" ↔ isBlankText s = true := by
  unfold trimmed isBlankText
  rw [String.ofList_eq_empty_iff, trim_eq_nil_iff,
    List.all_eq_true]

end Text

end EventFeed

------------------------------------------------------------
-- Schemes
------------------------------------------------------------

namespace EventFeed

namespace Url

/- The schemes of the web. -/
def IsWebScheme (scheme : String) : Prop :=
  scheme = "http" ∨ scheme = "https"

instance (scheme : String) : Decidable (IsWebScheme scheme) := by
  unfold IsWebScheme
  infer_instance

theorem isWebScheme_scheme (u : Url) : IsWebScheme u.scheme := by
  unfold scheme
  cases u.secure with
  | false => exact Or.inl rfl
  | true => exact Or.inr rfl

/- A scheme of the web is never taken for another one. -/
theorem ofScheme_of_isWebScheme
    {scheme : String}
    (hWeb : IsWebScheme scheme) :
    ∃ secure, SchemeKind.ofScheme scheme = .web secure := by
  rcases hWeb with rfl | rfl
  · exact ⟨false, rfl⟩
  · exact ⟨true, rfl⟩

/- An address that is not taken apart is not on the web. -/
theorem not_isWebScheme_of_parse
    {text scheme : String}
    (hParse : parse text = .ok (.other scheme)) :
    ¬ IsWebScheme scheme := by
  intro hWeb
  rcases ofScheme_of_isWebScheme hWeb with ⟨secure, hKind⟩
  -- Three kinds of scheme lead here, each by a reader of its own.
  have hScheme :
      ∀ (α : Type) (read : Except Error α) (named : String),
        (read.map fun _ => Target.other named) =
            .ok (.other scheme) →
          SchemeKind.ofScheme named = .web secure := by
    intro α read named hRead
    cases read with
    | error why => contradiction
    | ok a =>
        cases hRead
        exact hKind
  unfold parse at hParse
  split at hParse
  · contradiction
  · next named rest hCut =>
      split at hParse
      · next kind hOther =>
          cases hRead : parseWeb kind rest with
          | error why =>
              rw [hRead] at hParse
              contradiction
          | ok url =>
              rw [hRead] at hParse
              cases hParse
      all_goals
        next hOther =>
          rw [hScheme _ _ named hParse] at hOther
          contradiction

end Url

end EventFeed

------------------------------------------------------------
-- Checks
------------------------------------------------------------

namespace EventFeed

namespace Draft

/-
  What a draft has to be for a client to be built from it:
  there is an address, it can be read and is one on the web,
  some silence is borne, the credential is not blank if there
  is one, and there is something to run the client on.
-/
structure Acceptable (d : Draft) (runtime : Bool) : Prop where
  given : Text.trimmed d.url ≠ ""
  web :
    ∃ target,
      Url.parse (Text.trimmed d.url) = .ok target ∧
        Url.IsWebScheme target.scheme
  timeout : d.options.pingTimeout ≠ 0
  credential :
    ∀ c, d.options.credential = some c → Text.trimmed c ≠ ""
  runtime : runtime = true

/- What is checked. -/
inductive Check
  /- there is an address -/
  | given
  /- the address can be read -/
  | readable
  /- the address is one on the web -/
  | web
  /- some silence is borne -/
  | timeout
  /- the credential is more than blanks, if there is one -/
  | credential
  /- there is something to run the client on -/
  | runtime
deriving DecidableEq, Repr

namespace Check

/- What is checked of an address, the first thing first. -/
def ofAddress : List Check :=
  [given, readable, web]

/- What is checked of the options, the first thing first. -/
def ofOptions : List Check :=
  [timeout, credential]

/- All that is checked, the first thing first. -/
def all : List Check :=
  ofAddress ++ ofOptions ++ [runtime]

theorem mem_all (check : Check) : check ∈ all := by
  cases check <;> decide

/- The fault that a check finds with a draft, if it does. -/
def fault?
    (d : Draft)
    (runtime : Bool) : Check → Option ConfigError
  | .given =>
      if Text.trimmed d.url = "" then some .noAddress else none
  | .readable =>
      match Url.parse (Text.trimmed d.url) with
      | .error why =>
          some (.badAddress (Text.trimmed d.url) why)
      | .ok _ => none
  | .web =>
      match Url.parse (Text.trimmed d.url) with
      | .error _ => none
      | .ok target =>
          if Url.IsWebScheme target.scheme then none
          else some (.badScheme target.scheme)
  | .timeout =>
      if d.options.pingTimeout = 0 then some .noTimeout else none
  | .credential =>
      match d.options.credential with
      | some c =>
          if Text.trimmed c = "" then some .blankCredential
          else none
      | none => none
  | .runtime => if runtime then none else some .noRuntime

end Check

/- The fault that is found first. -/
def fault? (d : Draft) (runtime : Bool) : Option ConfigError :=
  Check.all.findSome? (Check.fault? d runtime)

variable {d : Draft}
variable {runtime : Bool}

namespace Acceptable

/- No check finds a fault with an acceptable draft. -/
theorem fault_eq_none
    (hAcceptable : d.Acceptable runtime)
    (check : Check) :
    check.fault? d runtime = none := by
  rcases hAcceptable.web with ⟨target, hParse, hWeb⟩
  cases check with
  | given => exact if_neg hAcceptable.given
  | readable => simp only [Check.fault?, hParse]
  | web => simp only [Check.fault?, hParse, if_pos hWeb]
  | timeout => exact if_neg hAcceptable.timeout
  | credential =>
      cases hCredential : d.options.credential with
      | none => simp only [Check.fault?, hCredential]
      | some c =>
          have hSome := hAcceptable.credential c hCredential
          simp only [Check.fault?, hCredential, if_neg hSome]
  | runtime => exact if_pos hAcceptable.runtime

/- A draft is acceptable if no check finds a fault. -/
theorem of_fault
    (hNone : ∀ check : Check, check.fault? d runtime = none) :
    d.Acceptable runtime where
  given := by
    intro hEmpty
    have hGiven := hNone .given
    simp [Check.fault?, hEmpty] at hGiven
  web := by
    have hReadable := hNone .readable
    have hWeb := hNone .web
    cases hParse : Url.parse (Text.trimmed d.url) with
    | error why => simp [Check.fault?, hParse] at hReadable
    | ok target =>
        refine ⟨target, rfl, ?_⟩
        simpa [Check.fault?, hParse] using hWeb
  timeout := by
    intro hZero
    have hTimeout := hNone .timeout
    simp [Check.fault?, hZero] at hTimeout
  credential := by
    intro c hSome hBlank
    have hCredential := hNone .credential
    simp [Check.fault?, hSome, hBlank] at hCredential
  runtime := by
    simpa [Check.fault?] using hNone .runtime

end Acceptable

theorem acceptable_iff_fault :
    d.Acceptable runtime ↔ d.fault? runtime = none := by
  unfold fault?
  rw [List.findSome?_eq_none_iff]
  constructor
  · intro hAcceptable check _
    exact hAcceptable.fault_eq_none check
  · intro hNone
    exact .of_fault fun check => hNone check check.mem_all

------------------------------------------------------------
-- Building
------------------------------------------------------------

/- The configuration that a draft stands for at an address. -/
def configAt (d : Draft) (url : Url) : Config where
  url := url
  credential := d.options.credential
  autoReconnect := d.options.autoReconnect
  reconnectInterval := d.options.reconnectInterval
  maxAttempts := d.options.maxAttempts
  pingTimeout := d.options.pingTimeout

variable (d : Draft)
variable (runtime : Bool)

/- Reading an address stops at the first fault with it. -/
theorem readAddress_cases :
    (∃ e,
        readAddress d.url = .error e ∧
          Check.ofAddress.findSome? (Check.fault? d runtime) =
            some e) ∨
      ∃ url,
        readAddress d.url = .ok url ∧
          Url.parse (Text.trimmed d.url) = .ok (.web url) ∧
          Check.ofAddress.findSome? (Check.fault? d runtime) =
            none := by
  unfold readAddress
  dsimp only
  by_cases hGiven : Text.trimmed d.url = ""
  · refine Or.inl ⟨.noAddress, if_pos hGiven, ?_⟩
    simp [Check.ofAddress, Check.fault?, hGiven]
  · rw [if_neg hGiven]
    cases hParse : Url.parse (Text.trimmed d.url) with
    | error why =>
        refine Or.inl ⟨_, rfl, ?_⟩
        simp [Check.ofAddress, Check.fault?, hGiven, hParse]
    | ok target =>
        cases target with
        | web url =>
            have hWeb := url.isWebScheme_scheme
            refine Or.inr ⟨url, rfl, rfl, ?_⟩
            simp [Check.ofAddress, Check.fault?, hGiven, hParse,
              Url.Target.scheme, hWeb]
        | other scheme =>
            have hOther := Url.not_isWebScheme_of_parse hParse
            refine Or.inl ⟨.badScheme scheme, rfl, ?_⟩
            simp [Check.ofAddress, Check.fault?, hGiven, hParse,
              Url.Target.scheme, hOther]

/- A credential is refused just if it is nothing but blanks. -/
theorem fault_credential :
    Check.credential.fault? d runtime =
      if (d.options.credential.map Text.isBlankText).getD false
      then some .blankCredential
      else none := by
  unfold Check.fault?
  cases d.options.credential with
  | none => rfl
  | some c =>
      simp only [Text.trimmed_eq_empty_iff]
      rfl

/- The options are looked at once the address has been read. -/
theorem config_cases :
    (∃ e,
        d.config = .error e ∧
          (Check.ofAddress ++ Check.ofOptions).findSome?
              (Check.fault? d runtime) =
            some e) ∨
      ∃ url,
        d.config = .ok (d.configAt url) ∧
          Url.parse (Text.trimmed d.url) = .ok (.web url) ∧
          (Check.ofAddress ++ Check.ofOptions).findSome?
              (Check.fault? d runtime) =
            none := by
  unfold config
  rw [List.findSome?_append]
  rcases d.readAddress_cases runtime with
    ⟨e, hRead, hFault⟩ | ⟨url, hRead, hParse, hFault⟩
  · refine Or.inl ⟨e, ?_, ?_⟩
    · rw [hRead]
      rfl
    · rw [hFault]
      rfl
  · rw [hRead, hFault, Option.none_or]
    by_cases hTimeout : d.options.pingTimeout = 0
    · refine Or.inl ⟨.noTimeout, ?_, ?_⟩
      · simp only [hTimeout]
        rfl
      · simp [Check.ofOptions, Check.fault?, hTimeout]
    · simp only [bind, Except.bind, if_neg hTimeout]
      have hPatient : Check.timeout.fault? d runtime = none :=
        if_neg hTimeout
      have hCredential := d.fault_credential runtime
      by_cases hBlank :
          (d.options.credential.map Text.isBlankText).getD false =
            true
      · rw [if_pos hBlank] at hCredential
        refine Or.inl ⟨.blankCredential, ?_, ?_⟩
        · simp only [if_pos hBlank]
          rfl
        · simp [Check.ofOptions, hPatient, hCredential]
      · rw [if_neg hBlank] at hCredential
        refine Or.inr ⟨url, ?_, hParse, ?_⟩
        · simp only [if_neg hBlank]
          rfl
        · simp [Check.ofOptions, hPatient, hCredential]

/- The runtime comes last. -/
theorem build_cases :
    (∃ e,
        d.build runtime = .error e ∧
          d.fault? runtime = some e) ∨
      ∃ url,
        d.build runtime = .ok (Client.new (d.configAt url)) ∧
          Url.parse (Text.trimmed d.url) = .ok (.web url) ∧
          d.fault? runtime = none := by
  unfold build fault? Check.all
  rw [List.findSome?_append]
  rcases d.config_cases runtime with
    ⟨e, hConfig, hFault⟩ | ⟨url, hConfig, hParse, hFault⟩
  · refine Or.inl ⟨e, ?_, ?_⟩
    · rw [hConfig]
      rfl
    · rw [hFault]
      rfl
  · rw [hConfig, hFault, Option.none_or]
    cases runtime with
    | true => exact Or.inr ⟨url, rfl, hParse, rfl⟩
    | false => exact Or.inl ⟨.noRuntime, rfl, rfl⟩

/- Building fails for the fault that is found first. -/
theorem build_eq_error_iff_fault (e : ConfigError) :
    d.build runtime = .error e ↔ d.fault? runtime = some e := by
  rcases d.build_cases runtime with
    ⟨found, hBuild, hFault⟩ | ⟨url, hBuild, hParse, hFault⟩
  · rw [hBuild, hFault, Except.error.injEq, Option.some.injEq]
  · rw [hBuild, hFault]
    constructor
    · intro hOk
      cases hOk
    · intro hNone
      cases hNone

/- Building comes to a client just if nothing is at fault. -/
theorem exists_build_eq_ok_iff :
    (∃ client, d.build runtime = .ok client) ↔
      d.Acceptable runtime := by
  rw [acceptable_iff_fault]
  rcases d.build_cases runtime with
    ⟨found, hBuild, hFault⟩ | ⟨url, hBuild, hParse, hFault⟩
  · rw [hBuild, hFault]
    constructor
    · rintro ⟨client, hOk⟩
      cases hOk
    · intro hNone
      cases hNone
  · rw [hBuild, hFault]
    constructor
    · exact fun _ => rfl
    · exact fun _ => ⟨Client.new (d.configAt url), rfl⟩

/- A client is configured just as its draft says. -/
theorem eq_new_of_build_eq_ok
    {client : Client}
    (hBuild : d.build runtime = .ok client) :
    ∃ url,
      Url.parse (Text.trimmed d.url) = .ok (.web url) ∧
        client = Client.new (d.configAt url) := by
  rcases d.build_cases runtime with
    ⟨found, hError, hFault⟩ | ⟨url, hOk, hParse, hFault⟩
  · rw [hError] at hBuild
    cases hBuild
  · rw [hOk] at hBuild
    exact ⟨url, hParse, (Except.ok.inj hBuild).symm⟩

end Draft

end EventFeed
