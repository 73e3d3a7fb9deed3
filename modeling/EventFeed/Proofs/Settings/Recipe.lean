import EventFeed.Proofs.Settings.Verdict

/-
  This file proves that of all words on an option the last one
  counts.

  Against the draft that collects the words of a recipe stands
  the history of every option on its own.  An address comes
  alone, while settings write to each option, and take back a
  credential or a ceiling that they do not give.

  Key definitions include:
    * `Options.Key`
    * `Options.get`
    * `Setter.written?`
    * `Settings.options`
    * `Basis.written?`
    * `Recipe.history`
    * `Recipe.final`
    * `Recipe.finals`
    * `Recipe.Settled`

  Key results include:
    * `Options.get_setAll`
    * `Options.set_comm`
    * `Recipe.draft_eq_finals`
    * `Recipe.built_by_last_words`
-/

------------------------------------------------------------
-- Options by Name
------------------------------------------------------------

namespace EventFeed

namespace Options

/- The options that there can be a word on. -/
inductive Key
  | credential
  | autoReconnect
  | reconnectInterval
  | maxAttempts
  | pingTimeout
deriving DecidableEq, Repr

/- What an option is set to. -/
def Key.Value : Key → Type
  | credential => Option String
  | autoReconnect => Bool
  | reconnectInterval => Span
  | maxAttempts => Option UInt32
  | pingTimeout => Span

/- The value of an option. -/
def get (o : Options) : (k : Key) → k.Value
  | .credential => o.credential
  | .autoReconnect => o.autoReconnect
  | .reconnectInterval => o.reconnectInterval
  | .maxAttempts => o.maxAttempts
  | .pingTimeout => o.pingTimeout

/- Options are the same if each of them has the same value. -/
theorem ext_get
    {o o' : Options}
    (hGet : ∀ k, o.get k = o'.get k) :
    o = o' := by
  have hCredential := hGet .credential
  have hAuto := hGet .autoReconnect
  have hInterval := hGet .reconnectInterval
  have hCeiling := hGet .maxAttempts
  have hTimeout := hGet .pingTimeout
  cases o
  cases o'
  simp only [get] at hCredential hAuto hInterval hCeiling hTimeout
  subst hCredential hAuto hInterval hCeiling hTimeout
  rfl

end Options

namespace Setter

/- The option that a word is on. -/
def key : Setter → Options.Key
  | credential _ => .credential
  | autoReconnect _ => .autoReconnect
  | reconnectInterval _ => .reconnectInterval
  | maxAttempts _ => .maxAttempts
  | pingTimeout _ => .pingTimeout

/- What a word writes to an option, if it is on that one. -/
def written? : (k : Options.Key) → Setter → Option k.Value
  | .credential, credential c => some (some c)
  | .autoReconnect, autoReconnect on => some on
  | .reconnectInterval, reconnectInterval s => some s
  | .maxAttempts, maxAttempts n => some (some n)
  | .pingTimeout, pingTimeout s => some s
  | _, _ => none

theorem written_eq_none
    {w : Setter}
    {k : Options.Key}
    (hKey : w.key ≠ k) :
    written? k w = none := by
  unfold written?
  split
  case h_6 => rfl
  all_goals exact absurd rfl hKey

end Setter

end EventFeed

------------------------------------------------------------
-- Words
------------------------------------------------------------

namespace EventFeed

namespace Options

/- A word writes to its option and leaves the others alone. -/
theorem get_set
    (o : Options)
    (w : Setter)
    (k : Key) :
    (o.set w).get k = (Setter.written? k w).getD (o.get k) := by
  cases w <;> cases k <;> rfl

/- After any words an option is what was written last. -/
theorem get_setAll
    (o : Options)
    (words : List Setter)
    (k : Key) :
    (o.setAll words).get k =
      (words.filterMap (Setter.written? k)).getLast?.getD
        (o.get k) := by
  induction words generalizing o with
  | nil => rfl
  | cons w words ih =>
      -- To the words that follow the first one is a default.
      have hRest := ih (o.set w)
      rw [get_set] at hRest
      refine hRest.trans ?_
      cases hWritten : Setter.written? k w with
      | none =>
          rw [List.filterMap_cons_none hWritten]
          rfl
      | some value =>
          rw [List.filterMap_cons_some hWritten,
            List.getLast?_cons]
          rfl

/- Words on different options commute. -/
theorem set_comm
    (o : Options)
    {a b : Setter}
    (hKeys : a.key ≠ b.key) :
    (o.set a).set b = (o.set b).set a := by
  apply ext_get
  intro k
  simp only [get_set]
  by_cases hFirst : a.key = k
  · have hSecond : b.key ≠ k := by
      intro hSame
      exact hKeys (hFirst.trans hSame.symm)
    rw [Setter.written_eq_none hSecond]
    rfl
  · rw [Setter.written_eq_none hFirst]
    rfl

theorem setAll_append
    (o : Options)
    (words more : List Setter) :
    o.setAll (words ++ more) = (o.setAll words).setAll more :=
  List.foldl_append

theorem setAll_swap
    (o : Options)
    {a b : Setter}
    (hKeys : a.key ≠ b.key)
    (front back : List Setter) :
    o.setAll (front ++ a :: b :: back) =
      o.setAll (front ++ b :: a :: back) := by
  rw [setAll_append, setAll_append]
  show
    (((o.setAll front).set a).set b).setAll back =
      (((o.setAll front).set b).set a).setAll back
  rw [set_comm _ hKeys]

end Options

end EventFeed

------------------------------------------------------------
-- Histories
------------------------------------------------------------

namespace EventFeed

namespace Settings

/- The options that settings stand for. -/
def options (s : Settings) : Options where
  credential := s.credential
  autoReconnect := s.autoReconnect
  reconnectInterval := s.reconnectInterval.toNat
  maxAttempts := s.maxAttempts
  pingTimeout := s.pingTimeout.toNat

end Settings

namespace Basis

/- The address that is given. -/
def address : Basis → String
  | url text => text
  | settings s => s.url

/-
  What is written to an option on this occasion: an address
  comes alone, and settings write to every option.
-/
def written? (k : Options.Key) : Basis → Option k.Value
  | url _ => none
  | settings s => some (s.options.get k)

end Basis

/- Settings leave nothing of what was said before. -/
theorem Options.withSettings_eq
    (o : Options)
    (s : Settings) :
    o.withSettings s = ⟨s.url, s.options⟩ :=
  rfl

theorem Options.url_withBasis
    (o : Options)
    (basis : Basis) :
    (o.withBasis basis).url = basis.address := by
  cases basis with
  | url text => rfl
  | settings s =>
      rw [withBasis, withSettings_eq]
      rfl

theorem Options.get_withBasis
    (o : Options)
    (basis : Basis)
    (k : Options.Key) :
    (o.withBasis basis).options.get k =
      (basis.written? k).getD (o.get k) := by
  cases basis with
  | url text => rfl
  | settings s =>
      rw [withBasis, withSettings_eq]
      rfl

namespace Recipe

/- All that is written to an option, in order. -/
def history (k : Options.Key) (r : Recipe) : List k.Value :=
  r.before.filterMap (Setter.written? k) ++
    (r.basis.written? k).toList ++
    r.after.filterMap (Setter.written? k)

/- What is written to an option last, or its default. -/
def final (r : Recipe) (k : Options.Key) : k.Value :=
  (r.history k).getLast?.getD (Options.default.get k)

/- The address, and what is written last to each option. -/
def finals (r : Recipe) : Draft where
  url := r.basis.address
  options :=
    { credential := r.final .credential
      autoReconnect := r.final .autoReconnect
      reconnectInterval := r.final .reconnectInterval
      maxAttempts := r.final .maxAttempts
      pingTimeout := r.final .pingTimeout }

theorem get_finals (r : Recipe) (k : Options.Key) :
    r.finals.options.get k = r.final k := by
  cases k <;> rfl

theorem get_draft (r : Recipe) (k : Options.Key) :
    r.draft.options.get k = r.final k := by
  show
    (((Options.default.setAll r.before).withBasis
      r.basis).options.setAll r.after).get k = _
  rw [Options.get_setAll, Options.get_withBasis,
    Options.get_setAll]
  unfold final history
  rw [List.getLast?_append, List.getLast?_append,
    Option.getD_or, Option.getD_or]
  -- What gives the address writes once or not at all.
  cases r.basis.written? k <;> rfl

/- Of all words on an option the last one counts. -/
theorem draft_eq_finals (r : Recipe) : r.draft = r.finals := by
  have hUrl : r.draft.url = r.finals.url :=
    Options.url_withBasis _ r.basis
  have hOptions : r.draft.options = r.finals.options := by
    apply Options.ext_get
    intro k
    rw [get_draft, get_finals]
  show Draft.mk r.draft.url r.draft.options = r.finals
  rw [hUrl, hOptions]

theorem finals_eq_of_final
    {r r' : Recipe}
    (hAddress : r.basis.address = r'.basis.address)
    (hFinal : ∀ k, r.final k = r'.final k) :
    r.finals = r'.finals := by
  unfold finals
  rw [hAddress]
  simp only [hFinal]

------------------------------------------------------------
-- Building from Recipes
------------------------------------------------------------

/-
  What building from a recipe comes to: a client just if what
  was said last is acceptable; its configuration holds just
  that, and it is as good as new.  Otherwise it is what the
  first check that fails finds fault with.
-/
structure Settled (r : Recipe) (runtime : Bool) : Prop where
  succeeds :
    (∃ client, r.build runtime = .ok client) ↔
      r.finals.Acceptable runtime
  configured :
    ∀ client,
      r.build runtime = .ok client →
        ∃ url,
          Url.parse (Text.trimmed r.basis.address) =
              .ok (.web url) ∧
            client.config =
              { url := url
                credential := r.final .credential
                autoReconnect := r.final .autoReconnect
                reconnectInterval := r.final .reconnectInterval
                maxAttempts := r.final .maxAttempts
                pingTimeout := r.final .pingTimeout } ∧
            client = Client.new client.config
  refused :
    ∀ e,
      r.build runtime = .error e ↔
        Draft.Check.all.findSome?
            (Draft.Check.fault? r.finals runtime) =
          some e

theorem settled
    (r : Recipe)
    (runtime : Bool) :
    r.Settled runtime where
  succeeds := by
    unfold build
    rw [draft_eq_finals]
    exact r.finals.exists_build_eq_ok_iff runtime
  configured := by
    unfold build
    rw [draft_eq_finals]
    intro client hBuild
    rcases r.finals.eq_new_of_build_eq_ok runtime hBuild with
      ⟨url, hParse, rfl⟩
    exact ⟨url, hParse, Client.config_new _, rfl⟩
  refused := by
    unfold build
    rw [draft_eq_finals]
    exact r.finals.build_eq_error_iff_fault runtime

/- Words may be had before an address comes or afterwards. -/
theorem build_url
    (first second after : List Setter)
    (text : String) :
    build ⟨first ++ second, .url text, after⟩ =
      build ⟨first, .url text, second ++ after⟩ := by
  have hDraft :
      draft ⟨first ++ second, .url text, after⟩ =
        draft ⟨first, .url text, second ++ after⟩ := by
    show
      Draft.mk text
          ((Options.default.setAll (first ++ second)).setAll
            after) =
        Draft.mk text
          ((Options.default.setAll first).setAll
            (second ++ after))
    rw [Options.setAll_append, Options.setAll_append]
  unfold build
  rw [hDraft]

/- Words before settings come are had in vain. -/
theorem build_settings
    (before before' after : List Setter)
    (s : Settings) :
    build ⟨before, .settings s, after⟩ =
      build ⟨before', .settings s, after⟩ := by
  unfold build draft Options.withBasis
  simp only [Options.withSettings_eq]

/- Words on different options may be had in any order. -/
theorem build_swap
    {a b : Setter}
    (hKeys : a.key ≠ b.key)
    (front back words : List Setter)
    (basis : Basis) :
    build ⟨front ++ a :: b :: back, basis, words⟩ =
        build ⟨front ++ b :: a :: back, basis, words⟩ ∧
      build ⟨words, basis, front ++ a :: b :: back⟩ =
        build ⟨words, basis, front ++ b :: a :: back⟩ := by
  unfold build draft Draft.setAll
  constructor
  · simp only [Options.setAll_swap _ hKeys]
  · simp only [Options.setAll_swap _ hKeys]

/-
  What building comes to is settled by the address and by what
  was said last of each option, and nothing else makes a
  difference.  So words before an address may as well be had
  after it, ahead of the others; words before settings are had
  in vain; and words on different options may change places.
-/
theorem built_by_last_words :
    (∀ (r : Recipe) (runtime : Bool), r.Settled runtime) ∧
      (∀ r r' : Recipe,
        r.basis.address = r'.basis.address →
          (∀ k, r.final k = r'.final k) →
            r.build = r'.build) ∧
      (∀ (first second after : List Setter) (text : String),
        build ⟨first ++ second, .url text, after⟩ =
          build ⟨first, .url text, second ++ after⟩) ∧
      (∀ (before before' after : List Setter) (s : Settings),
        build ⟨before, .settings s, after⟩ =
          build ⟨before', .settings s, after⟩) ∧
      ∀ a b : Setter,
        a.key ≠ b.key →
          ∀ (front back words : List Setter) (basis : Basis),
            build ⟨front ++ a :: b :: back, basis, words⟩ =
                build ⟨front ++ b :: a :: back, basis, words⟩ ∧
              build ⟨words, basis, front ++ a :: b :: back⟩ =
                build ⟨words, basis, front ++ b :: a :: back⟩ := by
  refine ⟨settled, ?_, build_url, build_settings, ?_⟩
  · intro r r' hAddress hFinal
    unfold build
    rw [draft_eq_finals, draft_eq_finals,
      finals_eq_of_final hAddress hFinal]
  · intro a b hKeys
    exact build_swap hKeys

/-
  Settings without a credential and without a ceiling take
  back those that were there, and a word afterwards makes up
  for the silence that they do not bear.  An address and just
  the words that count come to the same.  Without that word
  the silence is what is told of, though the credential is
  blank as well and there is no runtime.
-/
theorem built_by_last_words_over_settings :
    (∃ client url,
        build
              ⟨[.credential "old", .maxAttempts 9],
                .settings
                  ⟨" http://[::1]/ ", none, false, 500, none, 0⟩,
                [.reconnectInterval 2, .pingTimeout 5]⟩
              true =
            .ok client ∧
          client.config = ⟨url, none, false, 2, none, 5⟩) ∧
      build
          ⟨[.credential "old", .maxAttempts 9],
            .settings
              ⟨" http://[::1]/ ", none, false, 500, none, 0⟩,
            [.reconnectInterval 2, .pingTimeout 5]⟩ =
        build
          ⟨[.autoReconnect false], .url " http://[::1]/ ",
            [.pingTimeout 5, .reconnectInterval 2]⟩ ∧
      build
          ⟨[],
            .settings
              ⟨" http://[::1]/ ", none, false, 500, none, 0⟩,
            [.credential " ", .maxAttempts 3]⟩
          false =
        .error .noTimeout := by
  rcases built_by_last_words with
    ⟨hSettled, hDetermined, -, -, hSwap⟩
  have hParse :
      ∃ url,
        Url.parse (Text.trimmed " http://[::1]/ ") =
          .ok (.web url) :=
    ⟨⟨false, "", "", .v6 [0, 0, 0, 0, 0, 0, 0, 1], none, [""],
      none, none⟩, by decide +kernel⟩
  rcases hParse with ⟨loopback, hParse⟩
  refine ⟨?_, ?_, ?_⟩
  · have hOutcome :=
      hSettled
        ⟨[.credential "old", .maxAttempts 9],
          .settings
            ⟨" http://[::1]/ ", none, false, 500, none, 0⟩,
          [.reconnectInterval 2, .pingTimeout 5]⟩
        true
    rcases hOutcome.succeeds.mpr
        { given := by decide +kernel
          web :=
            ⟨.web loopback, hParse, loopback.isWebScheme_scheme⟩
          timeout := by decide
          credential := by
            intro c hSome
            cases hSome
          runtime := rfl } with
      ⟨client, hBuild⟩
    rcases hOutcome.configured client hBuild with
      ⟨url, -, hConfig, -⟩
    exact ⟨client, url, hBuild, hConfig⟩
  · have hOrder :=
      (hSwap (.reconnectInterval 2) (.pingTimeout 5)
        (by decide) [] [] [.autoReconnect false]
        (.url " http://[::1]/ ")).2
    refine Eq.trans ?_ hOrder
    apply hDetermined
    · rfl
    · intro k
      cases k <;> rfl
  · rw [(hSettled _ false).refused]
    decide +kernel

end Recipe

end EventFeed
