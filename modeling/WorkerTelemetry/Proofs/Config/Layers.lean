import WorkerTelemetry.Proofs.Config.Stored

/-!
Which layer a configuration has its values from. Each field has the value of the last layer that
gives one, but a file or an environment that does not read is refused before a later layer can
replace anything. Main statements: `load_layers` for the values, for what the environment counts,
and for the order of the errors; `loads_iff` for when there is a configuration at all.
-/

namespace WorkerTelemetry.Config

variable {read : Files.Reader} {path : Option String} {doc : Option Json} {env env' : Environment}
  {flags : Flags} {c c' : Config} {e e' : Error}

/-! ### Layers -/

/-- The document of the file at a path; nothing if no file is asked for. -/
inductive Document (read : Files.Reader) : Option String → Option Json → Prop
  | absent : Document read none none
  | file {path text v} : read.text path = .ok text → Toml.parse text = some v →
      Document read (some path) (some v)

/-- What is wrong with the file at a path. -/
inductive FileError (read : Files.Reader) : Option String → Error → Prop
  | unreadable {path fault} : read.text path = .error fault →
      FileError read (some path) (.unreadable path fault)
  | grammar {path text} : read.text path = .ok text → Toml.parse text = none →
      FileError read (some path) .malformed
  | form {path text v} : read.text path = .ok text → Toml.parse text = some v →
      ¬ Readable (some v) → FileError read (some path) .malformed

/-- What is wrong with an environment: only a severity can be. -/
inductive EnvironmentError (env : Environment) : Error → Prop
  | level {text cause} : env.value? levelVariable = some text →
      Severity.parse text = .error cause → EnvironmentError env (.environment levelVariable cause)

def environmentLevel (env : Environment) : Given Severity :=
  (env.value? levelVariable).map fun text => (Severity.parse text).toOption

/-- An address in the environment stands without the blanks around it. -/
def environmentAddress (env : Environment) : Given String :=
  (env.value? addressVariable).map fun text => some (Text.trim text)

/-- The level of the last layer that gives one: the flag, the environment, the file, or else the
standard one; nothing if what that layer gives is no level. -/
def lastLevel? (doc : Option Json) (env : Environment) (flags : Flags) : Option Severity :=
  (flags.logLevel.map some).getD ((environmentLevel env).getD ((fileLevel doc).getD (some .info)))

def lastAddress? (doc : Option Json) (env : Environment) (flags : Flags) : Option String :=
  (flags.metricsAddress.map some).getD
    ((environmentAddress env).getD ((fileAddress doc).getD (some "0.0.0.0:9090")))

/-- Only a file gives a path. -/
def lastPath? (doc : Option Json) : Option String := (filePath doc).getD (some "/metrics")

/-- Each field of a configuration has the value of the last layer that gives one. -/
abbrev Chosen (doc : Option Json) (env : Environment) (flags : Flags) : Config → Prop :=
  Holds (lastLevel? doc env flags) (lastAddress? doc env flags) (lastPath? doc)

theorem Document.unique {doc' : Option Json} (found : Document read path doc)
    (found' : Document read path doc') : doc = doc' := by
  cases found with
  | absent => cases found'; rfl
  | file content parsed =>
    cases found' with
    | file content' parsed' =>
      obtain rfl := Except.ok.inj (content.symm.trans content')
      exact parsed.symm.trans parsed'

theorem FileError.unique (wrong : FileError read path e) (wrong' : FileError read path e') :
    e = e' := by
  cases wrong with
  | unreadable fault =>
    cases wrong' with
    | unreadable fault' => rw [Except.error.inj (fault.symm.trans fault')]
    | grammar content | form content => cases fault.symm.trans content
  | grammar content | form content =>
    cases wrong' with
    | unreadable fault => cases fault.symm.trans content
    | grammar | form => rfl

theorem FileError.not_readable (wrong : FileError read path e) (found : Document read path doc) :
    ¬ Readable doc := by
  cases found with
  | absent => cases wrong
  | file content parsed =>
    cases wrong with
    | unreadable fault => cases fault.symm.trans content
    | grammar content' unparsed =>
      obtain rfl := Except.ok.inj (content.symm.trans content')
      cases parsed.symm.trans unparsed
    | form content' parsed' unreadable =>
      obtain rfl := Except.ok.inj (content.symm.trans content')
      obtain rfl := Option.some.inj (parsed.symm.trans parsed')
      exact unreadable

theorem EnvironmentError.not_sound (wrong : EnvironmentError env e) :
    ¬ (environmentLevel env).Sound := by
  cases wrong with
  | level given unknown => simp [environmentLevel, Given.Sound, given, unknown, Except.toOption]

/-! ### One layer on top of another -/

theorem withEnvironment_of_environmentError (wrong : EnvironmentError env e) (c : Config) :
    c.withEnvironment env = .error e := by
  cases wrong with
  | level given unknown =>
    rw [withEnvironment, given]
    simp only [unknown]
    rfl

theorem exists_error_or_sound (env : Environment) :
    (∃ e, EnvironmentError env e) ∨ (environmentLevel env).Sound := by
  cases given : env.value? levelVariable with
  | none => exact .inr (by simp [environmentLevel, Given.Sound, given])
  | some text =>
    cases parsed : Severity.parse text with
    | error cause => exact .inl ⟨_, .level given parsed⟩
    | ok s => exact .inr (by simp [environmentLevel, Given.Sound, given, parsed, Except.toOption])

/-- An environment with the name of a severity, or none, replaces what it gives. -/
theorem withEnvironment_of_sound (sound : (environmentLevel env).Sound) (c : Config) :
    ∃ c', c.withEnvironment env = .ok c' ∧
      (environmentLevel env).getD (some c.observability.logLevel) = some c'.observability.logLevel ∧
      (environmentAddress env).getD (some c.observability.metricsAddress) =
        some c'.observability.metricsAddress ∧
      c'.observability.metricsPath = c.observability.metricsPath := by
  obtain ⟨level, named⟩ := sound.exists_value c.observability.logLevel
  refine ⟨⟨⟨level, ((env.value? addressVariable).map Text.trim).getD c.observability.metricsAddress,
    c.observability.metricsPath⟩⟩, ?_, named, ?_, rfl⟩
  · unfold environmentLevel at named
    unfold withEnvironment
    cases given : env.value? levelVariable with
    | none =>
      rw [given] at named
      obtain rfl := Option.some.inj named
      rfl
    | some text =>
      rw [given] at named
      cases parsed : Severity.parse text with
      | error cause =>
        rw [Option.map_some, Option.getD_some, parsed] at named
        cases named
      | ok s =>
        rw [Option.map_some, Option.getD_some, parsed] at named
        obtain rfl := Option.some.inj named
        simp only [parsed]
        rfl
  · unfold environmentAddress
    cases env.value? addressVariable <;> rfl

/-- Flags on top of an environment on top of what a document stores. -/
theorem exists_chosen (stores : Stores doc c) (sound : (environmentLevel env).Sound)
    (flags : Flags) :
    ∃ c', c.withEnvironment env = .ok c' ∧ Chosen doc env flags (c'.withFlags flags) := by
  obtain ⟨c', replaced, level, address, path⟩ := withEnvironment_of_sound sound c
  refine ⟨c', replaced, ?_, ?_, ?_⟩
  · rw [lastLevel?, stores.level, level, withFlags]
    cases flags.logLevel <;> rfl
  · rw [lastAddress?, stores.address, address, withFlags]
    cases flags.metricsAddress <;> rfl
  · rw [lastPath?, stores.path, withFlags, path]

theorem ofFile_cases (read : Files.Reader) (path : String) :
    (∃ e, FileError read (some path) e ∧ ofFile read path = .error e) ∨
      ∃ v c, Document read (some path) (some v) ∧ Readable (some v) ∧ Stores (some v) c ∧
        ofFile read path = .ok c := by
  cases content : read.text path with
  | error fault => exact .inl ⟨_, .unreadable content, by simp only [ofFile, content]⟩
  | ok text =>
    cases parsed : Toml.parse text with
    | none =>
      refine .inl ⟨_, .grammar content parsed, ?_⟩
      simp only [ofFile, content, parsed, Option.bind_none]
    | some v =>
      have decoding : ofFile read path =
          ((ofJson .lenient v).map Except.ok).getD (.error .malformed) := by
        simp only [ofFile, content, parsed, Option.bind_some]
        cases ofJson .lenient v <;> rfl
      cases decoded : ofJson .lenient v with
      | none =>
        have unreadable : ¬ Readable (some v) := by
          intro readable
          obtain ⟨c, stores⟩ := readable.exists_stores
          cases decoded.symm.trans (ofJson_iff_stores.2 ⟨readable, stores⟩)
        exact .inl ⟨_, .form content parsed unreadable, by rw [decoding, decoded]; rfl⟩
      | some c =>
        obtain ⟨readable, stores⟩ := ofJson_iff_stores.1 decoded
        exact .inr ⟨v, c, .file content parsed, readable, stores, by rw [decoding, decoded]; rfl⟩

/-- The file is settled before anything else is looked at. -/
theorem file_cases (read : Files.Reader) (path : Option String) :
    (∃ e, FileError read path e ∧ ∀ env, resolve read path env = .error e) ∨
      ∃ doc c, Document read path doc ∧ Readable doc ∧ Stores doc c ∧
        ∀ env, resolve read path env = c.withEnvironment env := by
  cases path with
  | none => exact .inr ⟨none, {}, .absent, readable_none, stores_none, fun _ => rfl⟩
  | some path =>
    have resolved (env : Environment) :
        resolve read (some path) env = (ofFile read path).bind (·.withEnvironment env) := rfl
    rcases ofFile_cases read path with ⟨e, wrong, refused⟩ | ⟨v, c, found, readable, stores, reads⟩
    · exact .inl ⟨e, wrong, fun env => by rw [resolved, refused]; rfl⟩
    · exact .inr ⟨some v, c, found, readable, stores, fun env => by rw [resolved, reads]; rfl⟩

/-! ### All layers -/

/-- What loading comes to. Each case has those before it excluded. -/
inductive Loaded (read : Files.Reader) (path : Option String) (env : Environment) (flags : Flags) :
    Except Error Config → Prop
  | file {e : Error} : FileError read path e → Loaded read path env flags (.error e)
  | environment {doc : Option Json} {e : Error} : Document read path doc → Readable doc →
      EnvironmentError env e → Loaded read path env flags (.error e)
  | invalid {doc : Option Json} {c : Config} : Document read path doc → Readable doc →
      (environmentLevel env).Sound → Chosen doc env flags c → ¬ c.Valid →
      Loaded read path env flags (.error (.invalid c.problems))
  | ok {doc : Option Json} {c : Config} : Document read path doc → Readable doc →
      (environmentLevel env).Sound → Chosen doc env flags c → c.Valid →
      Loaded read path env flags (.ok c)

theorem load_of_refused (refused : resolve read path env = .error e) (flags : Flags) :
    load read path env flags = .error e := by
  rw [load, refused]
  rfl

theorem load_of_resolved (resolved : resolve read path env = .ok c) (flags : Flags) :
    load read path env flags = (c.withFlags flags).validate := by
  rw [load, resolved]
  rfl

theorem loaded_load (read : Files.Reader) (path : Option String) (env : Environment)
    (flags : Flags) : Loaded read path env flags (load read path env flags) := by
  -- what is wrong is found in this order: the file, the environment, the whole
  rcases file_cases read path with ⟨e, wrong, refused⟩ | ⟨doc, c, found, readable, stores, resolved⟩
  · rw [load_of_refused (refused env)]
    exact .file wrong
  rcases exists_error_or_sound env with ⟨e, wrong⟩ | sound
  · rw [load_of_refused ((resolved env).trans (withEnvironment_of_environmentError wrong c))]
    exact .environment found readable wrong
  obtain ⟨c', replaced, chosen⟩ := exists_chosen stores sound flags
  rw [load_of_resolved ((resolved env).trans replaced)]
  by_cases valid : (c'.withFlags flags).Valid
  · rw [show (c'.withFlags flags).validate = .ok (c'.withFlags flags) from if_pos valid]
    exact .ok found readable sound chosen valid
  · rw [show (c'.withFlags flags).validate = .error (.invalid (c'.withFlags flags).problems) from
      if_neg valid]
    exact .invalid found readable sound chosen valid

theorem EnvironmentError.unique (wrong : EnvironmentError env e)
    (wrong' : EnvironmentError env e') : e = e' := by
  obtain ⟨given, unknown⟩ := wrong
  obtain ⟨given', unknown'⟩ := wrong'
  obtain rfl := Option.some.inj (given.symm.trans given')
  rw [Except.error.inj (unknown.symm.trans unknown')]

/-- There is one thing only that loading can come to. -/
theorem Loaded.unique {r r' : Except Error Config} (loaded : Loaded read path env flags r)
    (loaded' : Loaded read path env flags r') : r = r' := by
  cases loaded with
  | file wrong =>
    cases loaded' with
    | file wrong' => rw [wrong.unique wrong']
    | environment found readable | invalid found readable | ok found readable =>
      exact absurd readable (wrong.not_readable found)
  | environment found readable wrong =>
    cases loaded' with
    | file wrong' => exact absurd readable (wrong'.not_readable found)
    | environment _ _ wrong' => rw [wrong.unique wrong']
    | invalid _ _ sound | ok _ _ sound => exact absurd sound wrong.not_sound
  | invalid found readable sound chosen invalid =>
    cases loaded' with
    | file wrong => exact absurd readable (wrong.not_readable found)
    | environment _ _ wrong => exact absurd sound wrong.not_sound
    | invalid found' _ _ chosen' =>
      obtain rfl := found.unique found'
      rw [chosen.unique chosen']
    | ok found' _ _ chosen' valid =>
      obtain rfl := found.unique found'
      obtain rfl := chosen.unique chosen'
      exact absurd valid invalid
  | ok found readable sound chosen valid =>
    cases loaded' with
    | file wrong => exact absurd readable (wrong.not_readable found)
    | environment _ _ wrong => exact absurd sound wrong.not_sound
    | invalid found' _ _ chosen' invalid =>
      obtain rfl := found.unique found'
      obtain rfl := chosen.unique chosen'
      exact absurd valid invalid
    | ok found' _ _ chosen' =>
      obtain rfl := found.unique found'
      rw [chosen.unique chosen']

theorem load_eq_iff {r : Except Error Config} :
    load read path env flags = r ↔ Loaded read path env flags r := by
  constructor
  · rintro rfl
    exact loaded_load read path env flags
  · exact (loaded_load read path env flags).unique

/-- The environment counts for its two variables only. -/
theorem load_congr (level : env' levelVariable = env levelVariable)
    (address : env' addressVariable = env addressVariable) :
    load read path env' flags = load read path env flags := by
  have same (c : Config) : c.withEnvironment env' = c.withEnvironment env := by
    simp only [withEnvironment, Environment.value?, level, address]
  have resolved : resolve read path env' = resolve read path env := by
    rcases file_cases read path with ⟨e, -, refused⟩ | ⟨doc, c, -, -, -, resolved⟩
    · rw [refused, refused]
    · rw [resolved, resolved, same]
  rw [load, load, resolved]

/-- What an environment gives once, it gives again. -/
theorem withEnvironment_twice (c : Config) (env : Environment) :
    (c.withEnvironment env).bind (·.withEnvironment env) = c.withEnvironment env := by
  rcases exists_error_or_sound env with ⟨e, wrong⟩ | sound
  · rw [withEnvironment_of_environmentError wrong]
    rfl
  obtain ⟨⟨⟨level, address, path⟩⟩, once, hlevel, haddress, -⟩ := withEnvironment_of_sound sound c
  obtain ⟨⟨⟨level', address', path'⟩⟩, again, hlevel', haddress', hpath'⟩ :=
    withEnvironment_of_sound sound ⟨⟨level, address, path⟩⟩
  obtain rfl := Option.some.inj ((Given.getD_again hlevel).symm.trans hlevel')
  obtain rfl := Option.some.inj ((Given.getD_again haddress).symm.trans haddress')
  obtain rfl : path' = path := hpath'
  rw [once]
  exact again

/-- Each field has the value of the last layer that gives one. Nothing but its two variables counts
in the environment, nothing changes if it is applied again, and what is wrong with the file is
reported before what is wrong with the environment, and that before what is wrong with the whole. -/
theorem load_layers (read : Files.Reader) (path : Option String) (env : Environment)
    (flags : Flags) :
    (∀ c, load read path env flags = .ok c →
      ∃ doc, Document read path doc ∧ Chosen doc env flags c) ∧
    (∀ env', env' levelVariable = env levelVariable → env' addressVariable = env addressVariable →
      load read path env' flags = load read path env flags) ∧
    (∀ c, (withEnvironment c env).bind (·.withEnvironment env) = c.withEnvironment env) ∧
    (∀ e, FileError read path e → load read path env flags = .error e) ∧
    (∀ e, (∀ e', ¬ FileError read path e') → EnvironmentError env e →
      load read path env flags = .error e) ∧
    (∀ e, load read path env flags = .error e →
      FileError read path e ∨ EnvironmentError env e ∨
        (∀ e', ¬ FileError read path e') ∧ (∀ e', ¬ EnvironmentError env e') ∧
          ∃ doc c, Document read path doc ∧ Chosen doc env flags c ∧ ¬ c.Valid ∧
            e = .invalid c.problems) := by
  refine ⟨?_, ?_, fun c => withEnvironment_twice c env, ?_, ?_, ?_⟩
  · intro c loads
    cases load_eq_iff.1 loads with
    | ok found readable sound chosen valid => exact ⟨_, found, chosen⟩
  · intro env' level address
    exact load_congr level address
  · intro e wrong
    exact load_eq_iff.2 (.file wrong)
  · intro e fine wrong
    rcases file_cases read path with ⟨e', wrong', -⟩ | ⟨doc, c, found, readable, -⟩
    · exact absurd wrong' (fine e')
    · exact load_eq_iff.2 (.environment found readable wrong)
  · intro e loads
    cases load_eq_iff.1 loads with
    | file wrong => exact .inl wrong
    | environment found readable wrong => exact .inr (.inl wrong)
    | invalid found readable sound chosen invalid =>
      refine .inr (.inr ⟨?_, ?_, _, _, found, chosen, invalid, rfl⟩)
      · intro e' wrong
        exact wrong.not_readable found readable
      · intro e' wrong
        exact wrong.not_sound sound

example : lastAddress? none
    (fun name => if name = addressVariable then some "\u3000127.0.0.1:9090\n" else none) {} =
      some "127.0.0.1:9090" := by
  decide +kernel

/-- For each field, what the last layer gives is right for it, whatever earlier layers give. -/
structure LastRight (doc : Option Json) (env : Environment) (flags : Flags) : Prop where
  level : ∃ s, lastLevel? doc env flags = some s
  address : ∃ a, lastAddress? doc env flags = some a ∧ addressProblem a = none
  path : ∃ p, lastPath? doc = some p ∧ pathProblem p = none

/-- There is a configuration exactly if all is right in the last layers, and neither the file nor
the environment gives anything of a wrong form: a text that is no address may be replaced by a later
layer, but what is no level, or no text, may not. -/
theorem loads_iff (read : Files.Reader) (path : Option String) (env : Environment) (flags : Flags) :
    (∃ c, load read path env flags = .ok c) ↔
      ∃ doc, Document read path doc ∧ LastRight doc env flags ∧ Readable doc ∧
        (environmentLevel env).Sound := by
  constructor
  · rintro ⟨c, loads⟩
    cases load_eq_iff.1 loads with
    | ok found readable sound chosen valid =>
      obtain ⟨address, path⟩ := valid_iff.1 valid
      exact ⟨_, found, ⟨⟨_, chosen.level⟩, ⟨_, chosen.address, address⟩, _, chosen.path, path⟩,
        readable, sound⟩
  · rintro ⟨doc, found, ⟨⟨s, level⟩, ⟨a, address, fine⟩, ⟨p, path, literal⟩⟩, readable, sound⟩
    have valid : Valid ⟨⟨s, a, p⟩⟩ := valid_iff.2 ⟨fine, literal⟩
    exact ⟨⟨⟨s, a, p⟩⟩, load_eq_iff.2 (.ok found readable sound ⟨level, address, path⟩ valid)⟩

/-- The text of a file whose level is none. -/
def loudText : String := "[observability]\nlog_level = \"loud\"\n"

def loudFile : Files.Reader := fun _ => .ok (Text.utf8 loudText.toList)

/-- An environment that gives a level only. -/
def levelOnly (text : String) : Environment := fun name =>
  if name = levelVariable then some text else none

/-- A level that is none is refused in the file although the environment replaces it, and in the
environment although a flag replaces it. -/
theorem wrong_level_not_replaced :
    (∃ doc, Document loudFile (some "worker.toml") doc ∧ LastRight doc (levelOnly "info") {}) ∧
      load loudFile (some "worker.toml") (levelOnly "info") {} = .error .malformed ∧
      (∃ doc, Document loudFile none doc ∧
        LastRight doc (levelOnly "loud") { logLevel := some .info }) ∧
      load loudFile none (levelOnly "loud") { logLevel := some .info } =
        .error (.environment levelVariable ⟨"loud"⟩) := by
  have content : loudFile.text "worker.toml" = .ok loudText := by
    simp only [Files.Reader.text, loudFile, bind, Except.bind, Text.ofUtf8?_utf8,
      String.ofList_toList]
    rfl
  have given : (Toml.parse loudText).map (fun v =>
      (fileLevel (some v), fileAddress (some v), filePath (some v))) =
        some (some none, none, none) := by decide +kernel
  obtain ⟨v, parsed, fields⟩ := Option.map_eq_some_iff.1 given
  obtain ⟨level, others⟩ := Prod.mk.inj fields
  obtain ⟨address, path⟩ := Prod.mk.inj others
  have unreadable : ¬ Readable (some v) := fun readable => readable.level level
  have info : environmentLevel (levelOnly "info") = some (some .info) := by decide +kernel
  have loud : (levelOnly "loud").value? levelVariable = some "loud" := by decide +kernel
  have no_address (text : String) : environmentAddress (levelOnly text) = none := rfl
  have standard_address : addressProblem "0.0.0.0:9090" = none := by decide +kernel
  have standard_path : pathProblem "/metrics" = none := by decide +kernel
  have right : LastRight (some v) (levelOnly "info") {} := by
    refine ⟨⟨.info, ?_⟩, ⟨_, ?_, standard_address⟩, _, ?_, standard_path⟩
    · rw [lastLevel?, info]
      rfl
    · rw [lastAddress?, no_address, address]
      rfl
    · rw [lastPath?, path]
      rfl
  have right_flag : LastRight none (levelOnly "loud") { logLevel := some .info } :=
    ⟨⟨.info, rfl⟩, ⟨_, rfl, standard_address⟩, _, rfl, standard_path⟩
  exact ⟨⟨_, .file content parsed, right⟩, load_eq_iff.2 (.file (.form content parsed unreadable)),
    ⟨none, .absent, right_flag⟩,
    load_eq_iff.2 (.environment .absent readable_none (.level loud rfl))⟩

end WorkerTelemetry.Config
