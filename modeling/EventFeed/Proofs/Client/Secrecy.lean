import EventFeed.Attempt.Network
import EventFeed.Proofs.Client.Account
import EventFeed.Proofs.Client.Recast
import EventFeed.Proofs.Settings.Comparison

/-
  This file proves that a credential is never revealed.

  Sealing takes away what a credential says and keeps only
  that there is one.  Every move does to a sealed turn what it
  does to the turn itself, so nothing that shows of a run
  depends on the credential.  The same holds of the way there:
  settings that are the same but for their credential are
  loaded with the same line, and build the same client but for
  its credential, or fail with the same error.

  The one exception is a text that gives no settings.  The
  error then ends in the diagnosis of the reader, which sees
  all of the text, a credential that stands in it included.

  Key definitions include:
    * `Turn.sealed`
    * `Draft.Alike`
    * `Turn.Indistinct`
    * `Client.Indistinct`
    * `Draft.Unrevealed`

  Key results include:
    * `Turn.move_sealed`
    * `Turn.follow_sealed`
    * `Draft.Alike.build`
    * `Settings.unrevealed`
    * `Settings.exists_telling_diagnosis`
-/

------------------------------------------------------------
-- Sealed Turns
------------------------------------------------------------

namespace EventFeed

theorem Config.sealed_sealed (c : Config) :
    c.sealed.sealed = c.sealed := by
  unfold sealed
  rw [Option.map_map]
  rfl

/- Nothing is known of the credential but that it is there. -/
def Recasting.secret : Recasting where
  config := Config.sealed
  handlers := id
  sealed_config := Config.sealed_sealed

/- The client without what its credential says. -/
def Client.sealed (c : Client) : Client :=
  c.recast .secret

namespace Turn

/- The turn without what the credential says. -/
def sealed (t : Turn) : Turn :=
  t.recast .secret

variable (t : Turn)

theorem take_sealed (o : Outcome) :
    t.sealed.take (o.recast .secret) = (t.take o).sealed :=
  rfl

theorem ifHeld_sealed
    {go : Turn → Turn}
    (hGo : go t.sealed = (go t).sealed) :
    t.sealed.ifHeld go = (t.ifHeld go).sealed := by
  have hHeld : t.sealed.held = t.held := rfl
  unfold ifHeld
  rw [hHeld]
  cases t.held with
  | false => rfl
  | true => exact hGo

theorem withAttempt_sealed
    (attempt : Nat)
    {go go' : UInt64 → Turn}
    (hGo : ∀ generation, go' generation = (go generation).sealed) :
    t.sealed.withAttempt attempt go' =
      (t.withAttempt attempt go).sealed := by
  have hBegun : t.sealed.begun[attempt]? = t.begun[attempt]? :=
    rfl
  unfold withAttempt
  rw [hBegun]
  cases t.begun[attempt]? with
  | none => rfl
  | some generation => exact hGo generation

theorem answer_sealed (q : Query) :
    t.sealed.answer q = (t.answer q).sealed := by
  cases q with
  | isLive attempt =>
      exact t.withAttempt_sealed attempt fun _ => rfl
  | describeAttempt attempt =>
      exact t.withAttempt_sealed attempt fun _ => rfl
  | isRegistered slot =>
      simp only [answer]
      exact t.ifHeld_sealed rfl
  | describeHandlers =>
      simp only [answer]
      exact t.ifHeld_sealed rfl
  | describeClient =>
      have hText : t.sealed.client.described = t.client.described :=
        t.client.described_recast .secret
      simp only [answer]
      apply t.ifHeld_sealed
      rw [hText]
      rfl
  | isAlive => rfl

theorem unwind_sealed : t.sealed.unwind = t.unwind.sealed := by
  have hAgenda : t.sealed.agenda = t.agenda := rfl
  unfold unwind
  rw [hAgenda]
  split <;> rfl

/- An action does not look at what the credential says. -/
theorem act_sealed (a : Action) :
    t.sealed.act a = (t.act a).sealed := by
  cases a with
  | connect =>
      have hRefusal :
          t.sealed.client.connectRefusal? =
            t.client.connectRefusal? :=
        t.client.connectRefusal?_recast .secret
      have hConnect :
          t.sealed.client.connect t.sealed.now =
            (t.client.connect t.now).recast .secret :=
        t.client.connect_recast .secret t.now
      simp only [act]
      apply t.ifHeld_sealed
      simp only [hRefusal]
      cases t.client.connectRefusal? with
      | some e => rfl
      | none =>
          simp only [hConnect, take_sealed]
          rfl
  | disconnect =>
      have hDisconnect :
          t.sealed.client.disconnect =
            t.client.disconnect.recast .secret :=
        t.client.disconnect_recast .secret
      simp only [act]
      apply t.ifHeld_sealed
      simp only [hDisconnect, take_sealed]
      rfl
  | report attempt r =>
      apply t.withAttempt_sealed attempt
      intro generation
      have hAlive : t.sealed.alive = t.alive := rfl
      have hReport :
          t.sealed.client.report t.sealed.now generation r =
            (t.client.report t.now generation r).recast
              .secret :=
        t.client.report_recast .secret t.now generation r
      rw [hAlive, hReport, take_sealed]
      cases t.alive <;> rfl
  | register slot reactions =>
      simp only [act]
      exact t.ifHeld_sealed rfl
  | unregister slot =>
      simp only [act]
      exact t.ifHeld_sealed rfl
  | ask q => exact t.answer_sealed q
  | release => rfl
  | panic => exact t.unwind_sealed
  | batch actions => rfl
  | idle => rfl

theorem handCall_sealed (c : Callback) :
    t.sealed.handCall c = (t.handCall c).sealed := by
  have hHandlers : t.sealed.client.handlers = t.client.handlers :=
    rfl
  unfold handCall
  rw [hHandlers]
  cases t.client.handlers.get c.slot <;> rfl

theorem run_sealed (task : Task) :
    t.sealed.run task = (t.run task).sealed := by
  cases task with
  | act a => exact t.act_sealed a
  | note a => rfl
  | gather n => rfl
  | owe d =>
      have hPerform :
          t.sealed.client.perform d =
            (t.client.perform d).recast .secret :=
        t.client.perform_recast .secret d
      cases d with
      | call c => exact t.handCall_sealed c
      | deliver generation e =>
          simp only [run, hPerform, take_sealed]
      | countPing => simp only [run, hPerform, take_sealed]
  | leave slot answers => rfl
  | fireTimer generation =>
      have hFire :
          t.sealed.client.fireTimer t.sealed.now generation =
            (t.client.fireTimer t.now generation).recast
              .secret :=
        t.client.fireTimer_recast .secret t.now generation
      simp only [run, hFire, take_sealed]
  | fireAlarm generation token =>
      have hFire :
          t.sealed.client.fireAlarm t.sealed.now generation
              token =
            (t.client.fireAlarm t.now generation token).recast
              .secret :=
        t.client.fireAlarm_recast .secret t.now generation token
      simp only [run, hFire, take_sealed]

theorem step_sealed : t.sealed.step = t.step.sealed := by
  have hAgenda : t.sealed.agenda = t.agenda := rfl
  unfold step
  rw [hAgenda]
  cases t.agenda with
  | nil => rfl
  | cons task rest =>
      exact run_sealed { t with agenda := rest } task

theorem put_sealed (task : Task) :
    t.sealed.put task = (t.put task).sealed := by
  have hFree : t.sealed.isFree = t.isFree := rfl
  unfold put
  rw [hFree]
  cases t.isFree <;> rfl

theorem beginAttempt_sealed :
    t.sealed.beginAttempt = t.beginAttempt.sealed := by
  have hKind :
      t.sealed.client.config.transport.kind =
        t.client.config.transport.kind :=
    t.client.config.kind_sealed
  have hHeld :
      t.sealed.client.link.transport = t.client.link.transport :=
    rfl
  have hAlive : t.sealed.alive = t.alive := rfl
  unfold beginAttempt
  rw [hHeld, hAlive, hKind]
  cases t.client.link.transport with
  | none => rfl
  | some generation => cases t.alive <;> rfl

/- A move does to the sealed turn what it does to the turn. -/
theorem move_sealed (m : Move) :
    t.sealed.move m = (t.move m).sealed := by
  have hAlive : t.sealed.alive = t.alive := rfl
  cases m with
  | step => exact t.step_sealed
  | act a => exact t.put_sealed (.act a)
  | timer generation =>
      have hPut := t.put_sealed (.fireTimer generation)
      simp only [move, hAlive, hPut]
      split <;> rfl
  | alarm generation token =>
      have hPut := t.put_sealed (.fireAlarm generation token)
      simp only [move, hAlive, hPut]
      split <;> rfl
  | wait span => rfl
  | begin => exact t.beginAttempt_sealed
  | drop =>
      have hOver :
          (t.sealed.agenda.isEmpty && !t.sealed.held) =
            (t.agenda.isEmpty && !t.held) := rfl
      simp only [move, hOver]
      split <;> rfl

theorem follow_sealed (moves : List Move) :
    t.sealed.follow moves = (t.follow moves).sealed := by
  induction moves generalizing t with
  | nil => rfl
  | cons m moves ih =>
      rw [follow_cons, follow_cons, move_sealed, ih]

/- A client is built with nothing of what its credential says. -/
theorem equipped_sealed
    (config : Config)
    (handlers : Registry Handler) :
    (equipped config handlers).sealed =
      equipped config.sealed handlers :=
  rfl

end Turn

end EventFeed

------------------------------------------------------------
-- Alike but for the Credential
------------------------------------------------------------

namespace EventFeed

/- Drafts that are the same but for their credential. -/
structure Draft.Alike (d₁ d₂ : Draft) : Prop where
  others :
    { d₂ with
      options :=
        { d₂.options with
          credential := d₁.options.credential } } = d₁
  credential :
    Credential.Alike d₁.options.credential
      d₂.options.credential

theorem Settings.Alike.draft
    {s₁ s₂ : Settings}
    (hAlike : s₁.Alike s₂) :
    s₁.draft.Alike s₂.draft := by
  refine ⟨?_, hAlike.credential⟩
  conv_rhs => rw [← hAlike.others]
  rfl

------------------------------------------------------------
-- Building
------------------------------------------------------------

namespace Draft.Alike

variable {d₁ d₂ : Draft}

theorem url_eq (hAlike : d₁.Alike d₂) : d₂.url = d₁.url :=
  (congrArg Draft.url hAlike.others :)

theorem autoReconnect_eq
    (hAlike : d₁.Alike d₂) :
    d₂.options.autoReconnect = d₁.options.autoReconnect :=
  (congrArg (fun d => d.options.autoReconnect) hAlike.others :)

theorem reconnectInterval_eq
    (hAlike : d₁.Alike d₂) :
    d₂.options.reconnectInterval =
      d₁.options.reconnectInterval :=
  (congrArg (fun d => d.options.reconnectInterval)
    hAlike.others :)

theorem maxAttempts_eq
    (hAlike : d₁.Alike d₂) :
    d₂.options.maxAttempts = d₁.options.maxAttempts :=
  (congrArg (fun d => d.options.maxAttempts) hAlike.others :)

theorem pingTimeout_eq
    (hAlike : d₁.Alike d₂) :
    d₂.options.pingTimeout = d₁.options.pingTimeout :=
  (congrArg (fun d => d.options.pingTimeout) hAlike.others :)

/- Checking sees of a credential only whether it is blank. -/
theorem config
    (hAlike : d₁.Alike d₂) :
    d₁.config.map Config.sealed =
      d₂.config.map Config.sealed := by
  have hBlank := hAlike.credential.map_isBlank
  have hRedacted := hAlike.credential.map_redacted
  unfold Draft.config
  rw [hAlike.url_eq, hAlike.autoReconnect_eq,
    hAlike.reconnectInterval_eq, hAlike.maxAttempts_eq,
    hAlike.pingTimeout_eq, hBlank]
  cases readAddress d₁.url with
  | error e => rfl
  | ok url =>
      by_cases hTimeout : d₁.options.pingTimeout = 0
      · simp only [hTimeout]
        rfl
      · simp only [bind, Except.bind, if_neg hTimeout]
        split
        · rfl
        · show Except.ok (Config.sealed _) =
            Except.ok (Config.sealed _)
          simp only [Config.sealed, hRedacted]

/- Both are built, or neither for the same reason. -/
theorem build
    (hAlike : d₁.Alike d₂)
    (runtime : Bool) :
    (d₁.build runtime).map Client.sealed =
      (d₂.build runtime).map Client.sealed := by
  have hBuild :
      ∀ d : Draft,
        (d.build runtime).map Client.sealed =
          (d.config.map Config.sealed).bind fun config =>
            if runtime then .ok (Client.new config)
            else .error .noRuntime := by
    intro d
    unfold Draft.build
    cases d.config with
    | error e => rfl
    | ok config => cases runtime <;> rfl
  rw [hBuild, hBuild, hAlike.config]

end Draft.Alike

------------------------------------------------------------
-- Nothing Tells Them Apart
------------------------------------------------------------

/- Nothing that shows of two turns tells them apart. -/
structure Turn.Indistinct (t₁ t₂ : Turn) : Prop where
  seen : t₁.seen = t₂.seen
  answers : t₁.answers = t₂.answers
  begun : t₁.begun = t₂.begun
  link : t₁.client.link = t₂.client.link
  tally : t₁.client.tally = t₂.client.tally
  client : t₁.client.described = t₂.client.described

/-
  Nothing that is told of two clients or shows of their runs
  tells them apart.  Their attempts go the same way as well,
  if both credentials can stand in a header or neither can.
-/
structure Client.Indistinct (c₁ c₂ : Client) : Prop where
  config : c₁.config.described = c₂.config.described
  client : c₁.described = c₂.described
  transport :
    c₁.config.transport.described =
      c₂.config.transport.described
  course :
    c₁.config.credential.map Http.isHeaderText =
        c₂.config.credential.map Http.isHeaderText →
      Attempt.course c₁.config = Attempt.course c₂.config
  run :
    ∀ handlers moves,
      Turn.Indistinct
        ((Turn.equipped c₁.config handlers).follow moves)
        ((Turn.equipped c₂.config handlers).follow moves)

/-
  Building from two drafts has the same outcome, and nothing
  tells apart what is built.
-/
structure Draft.Unrevealed (d₁ d₂ : Draft) : Prop where
  outcome :
    ∀ runtime,
      (d₁.build runtime).map Client.sealed =
        (d₂.build runtime).map Client.sealed
  built :
    ∀ runtime c₁ c₂,
      d₁.build runtime = .ok c₁ →
        d₂.build runtime = .ok c₂ → c₁.Indistinct c₂

theorem Turn.indistinct_of_sealed
    {t₁ t₂ : Turn}
    (hSealed : t₁.sealed = t₂.sealed) :
    t₁.Indistinct t₂ where
  seen := (congrArg Turn.seen hSealed :)
  answers := (congrArg Turn.answers hSealed :)
  begun := (congrArg Turn.begun hSealed :)
  link := (congrArg (fun t => t.client.link) hSealed :)
  tally := (congrArg (fun t => t.client.tally) hSealed :)
  client := by
    have hClient :=
      congrArg (fun t => t.client.described) hSealed
    rw [← t₁.client.described_recast .secret,
      ← t₂.client.described_recast .secret]
    exact hClient

theorem Config.described_transport_sealed (c : Config) :
    c.sealed.transport.described = c.transport.described := by
  unfold transport sealed
  cases c.credential <;> rfl

theorem Config.course_eq
    {c₁ c₂ : Config}
    (hSealed : c₁.sealed = c₂.sealed)
    (hHeader :
      c₁.credential.map Http.isHeaderText =
        c₂.credential.map Http.isHeaderText) :
    Attempt.course c₁ = Attempt.course c₂ := by
  have hUrl : c₁.url = c₂.url :=
    (congrArg Config.url hSealed :)
  funext o
  unfold Attempt.course transport
  cases hFirst : c₁.credential with
  | none =>
      cases hSecond : c₂.credential with
      | none => exact congrArg (Attempt.native · o) hUrl
      | some b =>
          rw [hFirst, hSecond] at hHeader
          contradiction
  | some a =>
      cases hSecond : c₂.credential with
      | none =>
          rw [hFirst, hSecond] at hHeader
          contradiction
      | some b =>
          rw [hFirst, hSecond, Option.map_some, Option.map_some,
            Option.some.injEq] at hHeader
          show
            Attempt.authenticated c₁.url a o =
              Attempt.authenticated c₂.url b o
          unfold Attempt.authenticated
          rw [hHeader, hUrl]

theorem Client.indistinct_of_sealed
    {c₁ c₂ : Client}
    (hSealed : c₁.sealed = c₂.sealed) :
    c₁.Indistinct c₂ := by
  have hConfig : c₁.config.sealed = c₂.config.sealed :=
    (congrArg Client.config hSealed :)
  refine ⟨?_, ?_, ?_, Config.course_eq hConfig, ?_⟩
  · rw [← Config.described_sealed, hConfig,
      Config.described_sealed]
  · have hClient := congrArg Client.described hSealed
    rw [← c₁.described_recast .secret,
      ← c₂.described_recast .secret]
    exact hClient
  · rw [← Config.described_transport_sealed, hConfig,
      Config.described_transport_sealed]
  · intro handlers moves
    apply Turn.indistinct_of_sealed
    rw [← Turn.follow_sealed, ← Turn.follow_sealed,
      Turn.equipped_sealed, Turn.equipped_sealed, hConfig]

theorem Draft.Alike.indistinct
    {d₁ d₂ : Draft}
    (hAlike : d₁.Alike d₂) :
    d₁.Unrevealed d₂ := by
  refine ⟨hAlike.build, ?_⟩
  intro runtime c₁ c₂ hFirst hSecond
  have hBuild := hAlike.build runtime
  rw [hFirst, hSecond] at hBuild
  exact Client.indistinct_of_sealed (Except.ok.inj hBuild)

/-
  A credential is not revealed.  Whether it stands in a file,
  in the environment or in a draft: with another one that is
  not blank either, and everything else the same, settings are
  loaded with the same line, building has the same outcome, and
  nothing tells apart the clients that are built.  If no
  settings are loaded, the errors are the same up to the
  diagnosis on a text, and no token shows in them at all.
-/
theorem Settings.unrevealed
    (diagnose : String → String)
    (path : String)
    {content₁ content₂ : Except FileFault ByteArray}
    {token₁ token₂ : Option String}
    (hFiles :
      FileAlike (content₁.bind textOf) (content₂.bind textOf))
    (hTokens : Credential.Alike token₁ token₂) :
    ReadAlike (load diagnose path content₁ token₁)
        (load diagnose path content₂ token₂) ∧
      (∀ e other,
        load diagnose path content₁ token₁ = .error e →
          load diagnose path content₁ other = .error e) ∧
        (∀ s₁ s₂,
          load diagnose path content₁ token₁ = .ok s₁ →
            load diagnose path content₂ token₂ = .ok s₂ →
              s₁.loadedLine path = s₂.loadedLine path ∧
                s₁.draft.Unrevealed s₂.draft) ∧
          ∀ d₁ d₂ : Draft, d₁.Alike d₂ → d₁.Unrevealed d₂ := by
  have hLoaded := hFiles.load hTokens diagnose path
  refine
    ⟨hLoaded, fun _ other hError =>
      load_eq_error_of_token hError other, ?_,
      fun _ _ => Draft.Alike.indistinct⟩
  intro s₁ s₂ hFirst hSecond
  rw [hFirst, hSecond] at hLoaded
  cases hLoaded with
  | read hAlike =>
      exact
        ⟨hAlike.loadedLine_eq path, hAlike.draft.indistinct⟩

/-
  The file gives no credential, and the tokens of the two
  environments are not the same.
-/
theorem Settings.unrevealed_tokens :
    ∃ s₁ s₂ : Settings,
      s₁.credential = some "first" ∧
        s₂.credential = some "second" ∧
        (s₁.draft.build true).toOption.isSome = true ∧
        (s₂.draft.build true).toOption.isSome = true ∧
        s₁.loadedLine "feed.yaml" = s₂.loadedLine "feed.yaml" ∧
        s₁.draft.Unrevealed s₂.draft := by
  have hLoad :
      ∀ token,
        load id "feed.yaml" (.ok "url: http://[::1]/".toUTF8)
            token =
          .ok ((ofUrl "http://[::1]/").withToken token) := by
    intro token
    rw [load_toUTF8, ofText_of_ofYaml? id ofYaml?_url]
    rfl
  have hText :
      TextAlike "url: http://[::1]/" "url: http://[::1]/" :=
    .settings ofYaml?_url ofYaml?_url ⟨rfl, .same _⟩
  have hAll :=
    unrevealed id "feed.yaml" hText.toUTF8
      (.other "first" "second" (by decide) (by decide))
  rcases hAll.2.2.1 _ _ (hLoad _) (hLoad _) with
    ⟨hLine, hUnrevealed⟩
  refine
    ⟨(ofUrl "http://[::1]/").withToken (some "first"),
      (ofUrl "http://[::1]/").withToken (some "second"),
      ?_, ?_, ?_, ?_, hLine, hUnrevealed⟩
  · decide
  · decide
  · decide +kernel
  · decide +kernel

/- A credential, and a number that is none on the same line. -/
def Settings.misspelled (credential : String) : String :=
  "\x7burl: http://x, credential: " ++ credential ++
    ", ping_timeout_ms: soon\x7d"

/- The fields of such a line. -/
def Settings.misspelledFields
    (credential : String) : List Yaml.Field :=
  [("url", some ⟨none, .plain, "http://x"⟩),
    ("credential", some ⟨none, .plain, credential⟩),
    ("ping_timeout_ms", some ⟨none, .plain, "soon"⟩)]

/- What the reader says of such a line, with the place. -/
def Settings.misspelling (text : String) : String :=
  "ping_timeout_ms: invalid type: string \"soon\", " ++
    "expected u64 at line 1 column " ++
    toString (text.length - 4)

/-
  A diagnosis that gives the place of a mistake tells two
  credentials of different lengths apart, if they stand before
  it on the line.
-/
theorem Settings.exists_telling_diagnosis :
    FileAlike
        ((Except.ok (misspelled "first").toUTF8).bind textOf)
        ((Except.ok (misspelled "another").toUTF8).bind
          textOf) ∧
      load misspelling "feed.yaml"
          (.ok (misspelled "first").toUTF8) none =
        .error
          (unreadable
            ("ping_timeout_ms: invalid type: string " ++
              "\"soon\", expected u64 at line 1 column 53")) ∧
        load misspelling "feed.yaml"
            (.ok (misspelled "another").toUTF8) none =
          .error
            (unreadable
              ("ping_timeout_ms: invalid type: string " ++
                "\"soon\", expected u64 at line 1 column 55")) := by
  have hFirst :
      Yaml.fields? (misspelled "first") =
        some (misspelledFields "first") := by
    unfold misspelled
    cbv
  have hSecond :
      Yaml.fields? (misspelled "another") =
        some (misspelledFields "another") := by
    unfold misspelled
    cbv
  refine ⟨?_, ?_, ?_⟩
  · apply TextAlike.toUTF8
    apply TextAlike.fields
    rw [hFirst, hSecond]
    have hCredentials :
        Yaml.Field.Alike
          ("credential", some ⟨none, .plain, "first"⟩)
          ("credential", some ⟨none, .plain, "another"⟩) :=
      .credential _ _ ⟨by decide, by decide⟩
        ⟨by decide, by decide⟩
    exact
      .some
        (.cons (.same _)
          (.cons hCredentials (.cons (.same _) .nil)))
  · have hRead : ofYaml? (misspelled "first") = none := by
      rw [ofYaml?_of_fields? hFirst]
      decide
    rw [load_toUTF8_of_none _ _ hRead]
    decide +kernel
  · have hRead : ofYaml? (misspelled "another") = none := by
      rw [ofYaml?_of_fields? hSecond]
      decide
    rw [load_toUTF8_of_none _ _ hRead]
    decide +kernel

end EventFeed
