import EventFeed.Proofs.Settings.Loading

/-
  This file compares files of settings that are the same but
  for the credential.

  Either both files give settings, and these are the same but
  for the credential; or neither does, and both fail with the
  same error, up to the words of the diagnosis on a text.  The
  diagnosis sees the whole text, so it may differ where the
  texts do.

  Key definitions include:
    * `Credential.Alike`
    * `Yaml.Field.Alike`
    * `Settings.Alike`
    * `Settings.TextAlike`
    * `Settings.FileAlike`
    * `Settings.ReadAlike`

  Key results include:
    * `Yaml.Field.unique?_eq_of_alike`
    * `Yaml.Field.rel_optional?_credential`
    * `Settings.rel_ofFields?`
    * `Settings.TextAlike.rel_ofYaml?`
    * `Settings.FileAlike.load`
-/

------------------------------------------------------------
-- Credentials
------------------------------------------------------------

namespace EventFeed

/-
  Credentials that nobody should tell apart: the same one, or
  two that are not blank.
-/
inductive Credential.Alike :
    Option String → Option String → Prop
  | same (credential : Option String) :
      Alike credential credential
  | other
      (c₁ c₂ : String)
      (hFirst : Text.isBlankText c₁ = false)
      (hSecond : Text.isBlankText c₂ = false) :
      Alike (some c₁) (some c₂)

namespace Credential.Alike

variable {a b : Option String}

theorem map_redacted
    (hAlike : Alike a b) :
    (a.map fun _ => redacted) = b.map fun _ => redacted := by
  cases hAlike <;> rfl

theorem isSome_eq
    (hAlike : Alike a b) :
    a.isSome = b.isSome := by
  cases hAlike <;> rfl

theorem map_isBlank
    (hAlike : Alike a b) :
    a.map Text.isBlankText = b.map Text.isBlankText := by
  cases hAlike with
  | same => rfl
  | other c₁ c₂ hFirst hSecond =>
      rw [Option.map_some, Option.map_some, hFirst, hSecond]

theorem tokenOf
    (hAlike : Alike a b) :
    Alike (Settings.tokenOf a) (Settings.tokenOf b) := by
  cases hAlike with
  | same => exact .same _
  | other c₁ c₂ hFirst hSecond =>
      simp only [Settings.tokenOf, Option.filter_some, hFirst,
        hSecond]
      exact .other c₁ c₂ hFirst hSecond

end Credential.Alike

end EventFeed

------------------------------------------------------------
-- Fields
------------------------------------------------------------

namespace EventFeed

namespace Yaml

/- A scalar that says something, and not only blanks. -/
structure Scalar.IsCredential (s : Scalar) : Prop where
  said : s.optional? = some (some s)
  visible : Text.isBlankText s.text = false

namespace Field

/- The same field, or two that give credentials. -/
inductive Alike : Field → Field → Prop
  | same (f : Field) : Alike f f
  | credential
      (s₁ s₂ : Scalar)
      (hFirst : s₁.IsCredential)
      (hSecond : s₂.IsCredential) :
      Alike ("credential", some s₁) ("credential", some s₂)

variable {fs₁ fs₂ : List Field}

theorem Alike.key_eq
    {f₁ f₂ : Field}
    (hAlike : f₁.Alike f₂) :
    f₁.1 = f₂.1 := by
  cases hAlike <;> rfl

/- What is not the credential is the same. -/
theorem unique?_eq_of_alike
    (hAlike : List.Forall₂ Alike fs₁ fs₂)
    {key : String}
    (hKey : "credential" ≠ key) :
    unique? fs₁ key = unique? fs₂ key := by
  have hFilter :
      (fs₁.filter fun f => f.1 == key) =
        fs₂.filter fun f => f.1 == key := by
    induction hAlike with
    | nil => rfl
    | cons hHead _ ih =>
        cases hHead with
        | same f => rw [List.filter_cons, List.filter_cons, ih]
        | credential s₁ s₂ => simp [hKey, ih]
  unfold unique?
  rw [hFilter]

/- Of the credential the same may be said, or two of a kind. -/
theorem rel_optional?_credential
    (hAlike : List.Forall₂ Alike fs₁ fs₂) :
    Option.Rel
      (fun a b : Option Scalar =>
        Credential.Alike (a.map Scalar.text)
          (b.map Scalar.text))
      (optional? fs₁ "credential")
      (optional? fs₂ "credential") := by
  have hSame :
      ∀ s? : Option (Option Scalar),
        Option.Rel
          (fun a b : Option Scalar =>
            Credential.Alike (a.map Scalar.text)
              (b.map Scalar.text))
          s? s? := by
    intro s?
    cases s? with
    | none => exact .none
    | some a => exact .some (.same _)
  have hFilter :
      List.Forall₂ Alike
        (fs₁.filter fun f => f.1 == "credential")
        (fs₂.filter fun f => f.1 == "credential") :=
    List.rel_filter
      (fun f₁ f₂ hFields => by
        show (f₁.1 == _) = true ↔ (f₂.1 == _) = true
        rw [hFields.key_eq])
      hAlike
  unfold optional? unique?
  generalize fs₁.filter _ = found₁ at hFilter ⊢
  generalize fs₂.filter _ = found₂ at hFilter ⊢
  cases hFilter with
  | nil => exact hSame _
  | cons hHead hTail =>
      cases hTail with
      | nil =>
          cases hHead with
          | same f => exact hSame _
          | credential s₁ s₂ hFirst hSecond =>
              show Option.Rel _ s₁.optional? s₂.optional?
              rw [hFirst.said, hSecond.said]
              exact
                .some
                  (.other _ _ hFirst.visible hSecond.visible)
      | cons => exact .none

end Field

end Yaml

end EventFeed

------------------------------------------------------------
-- Texts
------------------------------------------------------------

namespace EventFeed

section

variable {α β γ δ : Type}
variable {R : α → β → Prop}
variable {S : γ → δ → Prop}

/- Related steps from related values lead to related ones. -/
theorem rel_bind
    {a : Option α}
    {b : Option β}
    {f : α → Option γ}
    {g : β → Option δ}
    (hValues : Option.Rel R a b)
    (hSteps : ∀ x y, R x y → Option.Rel S (f x) (g y)) :
    Option.Rel S (a.bind f) (b.bind g) := by
  cases hValues with
  | some hValue => exact hSteps _ _ hValue
  | none => exact .none

theorem rel_bind_same
    (a : Option α)
    {f : α → Option γ}
    {g : α → Option δ}
    (hSteps : ∀ x, Option.Rel S (f x) (g x)) :
    Option.Rel S (a.bind f) (a.bind g) := by
  cases a with
  | some x => exact hSteps x
  | none => exact .none

end

namespace Settings

/- Settings that are the same but for their credential. -/
structure Alike (s₁ s₂ : Settings) : Prop where
  others : { s₂ with credential := s₁.credential } = s₁
  credential : Credential.Alike s₁.credential s₂.credential

/- Alike fields give alike settings, or none at all. -/
theorem rel_ofFields?
    {fs₁ fs₂ : List Yaml.Field}
    (hAlike : List.Forall₂ Yaml.Field.Alike fs₁ fs₂) :
    Option.Rel Alike (ofFields? fs₁) (ofFields? fs₂) := by
  have hOthers :
      ∀ key, "credential" ≠ key →
        Yaml.Field.unique? fs₁ key =
          Yaml.Field.unique? fs₂ key :=
    fun _ => Yaml.Field.unique?_eq_of_alike hAlike
  have hCeiling :
      Yaml.Field.optional? fs₁ "max_reconnect_attempts" =
        Yaml.Field.optional? fs₂ "max_reconnect_attempts" := by
    unfold Yaml.Field.optional?
    rw [hOthers _ (by decide)]
  unfold ofFields? Yaml.Field.text? Yaml.Field.bool?
    Yaml.Field.nat? Yaml.Field.ceiling?
  rw [hOthers "url" (by decide),
    hOthers "auto_reconnect" (by decide),
    hOthers "reconnect_interval_ms" (by decide), hCeiling,
    hOthers "ping_timeout_ms" (by decide)]
  refine rel_bind_same _ fun url => ?_
  refine
    rel_bind (Yaml.Field.rel_optional?_credential hAlike)
      fun a b hCredential => ?_
  refine rel_bind_same _ fun autoReconnect => ?_
  refine rel_bind_same _ fun reconnectInterval => ?_
  refine rel_bind_same _ fun maxAttempts => ?_
  refine rel_bind_same _ fun pingTimeout => ?_
  exact .some ⟨rfl, hCredential⟩

/-
  Texts that are the same but for the credential: they give
  settings that are, or they spell fields that are, or neither
  spells any.
-/
inductive TextAlike (text₁ text₂ : String) : Prop
  | settings
      {s₁ s₂ : Settings}
      (hFirst : ofYaml? text₁ = some s₁)
      (hSecond : ofYaml? text₂ = some s₂)
      (hAlike : s₁.Alike s₂)
  | fields
      (hFields :
        Option.Rel (List.Forall₂ Yaml.Field.Alike)
          (Yaml.fields? text₁) (Yaml.fields? text₂))

theorem TextAlike.rel_ofYaml?
    {text₁ text₂ : String}
    (hTexts : TextAlike text₁ text₂) :
    Option.Rel Alike (ofYaml? text₁) (ofYaml? text₂) := by
  cases hTexts with
  | settings hFirst hSecond hAlike =>
      rw [hFirst, hSecond]
      exact .some hAlike
  | fields hFields =>
      exact rel_bind hFields fun _ _ => rel_ofFields?

/- The texts of two files, or why neither has one. -/
inductive FileAlike :
    Except FileFault String → Except FileFault String → Prop
  | fault (fault : FileFault) :
      FileAlike (.error fault) (.error fault)
  | text
      {text₁ text₂ : String}
      (hTexts : TextAlike text₁ text₂) :
      FileAlike (.ok text₁) (.ok text₂)

theorem TextAlike.toUTF8
    {text₁ text₂ : String}
    (hTexts : TextAlike text₁ text₂) :
    FileAlike ((Except.ok text₁.toUTF8).bind textOf)
      ((Except.ok text₂.toUTF8).bind textOf) := by
  show
    FileAlike (textOf text₁.toUTF8) (textOf text₂.toUTF8)
  rw [textOf_toUTF8, textOf_toUTF8]
  exact .text hTexts

end Settings

end EventFeed

------------------------------------------------------------
-- Loading
------------------------------------------------------------

namespace EventFeed

namespace Settings

/-
  What came of loading: settings that are alike, the same
  error, or a text on either side that gives no settings, with
  a diagnosis of its own.
-/
inductive ReadAlike :
    Except FeedError Settings →
      Except FeedError Settings → Prop
  | failed (e : FeedError) : ReadAlike (.error e) (.error e)
  | unreadable (first second : String) :
      ReadAlike (.error (unreadable first))
        (.error (unreadable second))
  | read
      {s₁ s₂ : Settings}
      (hAlike : s₁.Alike s₂) :
      ReadAlike (.ok s₁) (.ok s₂)

namespace Alike

variable {s₁ s₂ : Settings}

theorem withToken
    (hAlike : s₁.Alike s₂)
    {token₁ token₂ : Option String}
    (hTokens : Credential.Alike token₁ token₂) :
    (s₁.withToken token₁).Alike (s₂.withToken token₂) := by
  have hSome := hAlike.credential.isSome_eq
  cases hFirst : s₁.credential with
  | some c₁ =>
      cases hSecond : s₂.credential with
      | some c₂ =>
          rw [withToken_of_some hFirst, withToken_of_some hSecond]
          exact hAlike
      | none =>
          rw [hFirst, hSecond] at hSome
          contradiction
  | none =>
      cases hSecond : s₂.credential with
      | some c₂ =>
          rw [hFirst, hSecond] at hSome
          contradiction
      | none =>
          rw [withToken_of_none hFirst, withToken_of_none hSecond]
          refine ⟨?_, hTokens.tokenOf⟩
          rw [← hAlike.others]

/- The line on loading tells only whether there is one. -/
theorem loadedLine_eq
    (hAlike : s₁.Alike s₂)
    (path : String) :
    s₁.loadedLine path = s₂.loadedLine path := by
  unfold loadedLine
  rw [hAlike.credential.isSome_eq]

end Alike

variable {content₁ content₂ : Except FileFault ByteArray}
variable {token₁ token₂ : Option String}

/- Files that are alike are loaded alike. -/
theorem FileAlike.load
    (hFiles :
      FileAlike (content₁.bind textOf) (content₂.bind textOf))
    (hTokens : Credential.Alike token₁ token₂)
    (diagnose : String → String)
    (path : String) :
    ReadAlike (load diagnose path content₁ token₁)
      (load diagnose path content₂ token₂) := by
  unfold Settings.load
  generalize content₁.bind textOf = first at hFiles ⊢
  generalize content₂.bind textOf = second at hFiles ⊢
  cases hFiles with
  | fault fault => exact .failed (fileError path fault)
  | @text text₁ text₂ hTexts =>
      have hRead := hTexts.rel_ofYaml?
      simp only [ofText]
      generalize ofYaml? text₁ = read₁ at hRead ⊢
      generalize ofYaml? text₂ = read₂ at hRead ⊢
      cases hRead with
      | none => exact .unreadable _ _
      | some hAlike => exact .read (hAlike.withToken hTokens)

/- A token shows in no error. -/
theorem load_eq_error_of_token
    {diagnose : String → String}
    {path : String}
    {content : Except FileFault ByteArray}
    {token : Option String}
    {e : FeedError}
    (hError : load diagnose path content token = .error e)
    (other : Option String) :
    load diagnose path content other = .error e := by
  rw [load_eq_map] at hError ⊢
  cases hLoad : load diagnose path content none with
  | error e' =>
      rw [hLoad] at hError
      exact hError
  | ok s =>
      rw [hLoad] at hError
      cases hError

end Settings

end EventFeed
