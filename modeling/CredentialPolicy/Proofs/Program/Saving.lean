import CredentialPolicy.Program.Session
import CredentialPolicy.Proofs.Settings.Change
import CredentialPolicy.Proofs.Settings.Loading

/-!
What `config set` leaves in the file with the settings.

The command changes the settings with which it runs, and writes all of them. These are the stored
ones with the environment laid over those of the engine, or with the engine's settings from a file
that the command line names. So whatever the environment or that file says is stored, whichever
setting the command was to set: the others stay as they were only if nothing else is said of them
(`Session.stored?_run_set`).
-/

set_option autoImplicit false

namespace CredentialPolicy

open CredentialPolicy.Random (CyclicWords WordSource)

/-! ## Files that are written and read -/

/-- A file that is written under the plain names of a path is what the path holds then. -/
theorem FileTree.content_write {tree next : FileTree} {path : String} {bytes : ByteArray}
    (hplain : ∀ name ∈ namesOf path, IsPlain name) (hpath : path.toList.contains '\x00' = false)
    (h : tree.write (namesOf path) bytes = .ok next) : next.content path = .ok bytes := by
  have hempty : path ≠ "" := by
    rintro rfl
    exact absurd hplain (by decide)
  rw [content, if_neg (by rw [hpath]; decide), if_neg hempty, follow_write hplain h]

namespace Program

/-- No failure is reported as a success. -/
theorem Outcome.failure_code_ne (text : String) : (failure text).code ≠ 0 :=
  show (1 : UInt8) ≠ 0 by decide

namespace Session

/-- The file with the settings. -/
def settingsFile (s : Session) : FileContent :=
  s.content ("/".intercalate (s.home :: settingsNames))

/-- The environment is not where the file with the settings is. -/
theorem settingsFile_host (s : Session) (env : Environment) :
    (s.host env).settingsFile = s.settingsFile := rfl

theorem environment_host (s : Session) (env : Environment) : (s.host env).environment = env := rfl

theorem content_host (s : Session) (env : Environment) : (s.host env).content = s.content := rfl

/-- The file with the settings is found by its path from the home directory. -/
theorem settingsFile_eq (s : Session) : s.settingsFile = s.files.content ".idm/idm.toml" := by
  -- Wherever the directory is, its own path is in front, and the rest leads on from inside it.
  have hpath : ("/".intercalate (s.home :: settingsNames)).toList =
      s.home.toList ++ ['/'] ++ ".idm/idm.toml".toList := by
    simp [settingsNames]
  rw [settingsFile, content, hpath]
  simp

/-- The settings that are stored; those of a missing file are the default ones. -/
def stored? (s : Session) : Option ProgramSettings :=
  s.settingsFile.described? ProgramSettings.ofText? {}

/-- Settings that were saved are stored. -/
theorem stored?_of_save {s next : Session} {settings : ProgramSettings}
    (h : s.save settings = .ok next) : next.stored? = some settings := by
  have hnames : settingsNames = FileTree.namesOf ".idm/idm.toml" := by decide
  have hfile : next.settingsFile = .ofText settings.toText := by
    unfold save at h
    cases hwrite : s.files.write settingsNames settings.toText.toUTF8 with
    | error cause =>
      rw [hwrite] at h
      exact absurd h nofun
    | ok files =>
      rw [hwrite] at h
      obtain rfl := Except.ok.inj h
      rw [settingsFile_eq]
      exact FileTree.content_write (by decide) (by decide) (hnames ▸ hwrite)
  rw [stored?, hfile, FileContent.described?_ofText, ProgramSettings.ofText?_toText]

/-! ## Runs -/

/-- The settings of the engine with which a command runs if the settings of the program are `p`. -/
def engineFor (s : Session) (env : Environment) (engineFile : Option String)
    (p : ProgramSettings) : Except SettingsError EngineSettings :=
  match engineFile with
  | none => p.engine.overlay env
  | some path => EngineSettings.load (s.content path) env

variable {s : Session} {env : Environment} {invocation : Invocation} {p : ProgramSettings}

/-- A command runs with the stored format, and with what the environment and the command line make
of the stored settings of the engine. -/
theorem eq_of_settingsFor {before : ProgramSettings} (hstored : s.stored? = some before)
    (h : settingsFor (s.host env) invocation = .ok p) :
    s.engineFor env invocation.engineFile before = .ok p.engine ∧
      p.outputFormat = before.outputFormat := by
  rw [settingsFor, settingsFile_host, environment_host, content_host] at h
  cases hload : ProgramSettings.load s.settingsFile env with
  | error cause =>
    rw [hload] at h
    exact absurd h nofun
  | ok loaded =>
    obtain ⟨q, hq, hoverlay, hformat⟩ := ProgramSettings.load_eq_ok_iff.1 hload
    obtain rfl : q = before := Option.some.inj (hq.symm.trans hstored)
    -- The stored settings have to load in any case, also if those of the engine are not used.
    rw [hload] at h
    cases hfile : invocation.engineFile with
    | none =>
      simp only [hfile, Except.ok.injEq] at h
      exact h ▸ ⟨hoverlay, hformat.symm⟩
    | some path =>
      simp only [hfile] at h
      cases hengine : EngineSettings.load (s.content path) env with
      | error cause =>
        rw [hengine] at h
        exact absurd h nofun
      | ok engine =>
        rw [hengine] at h
        obtain rfl := Except.ok.inj h
        exact ⟨hengine, hformat.symm⟩

/-- A command that sets a value fails, or asks for the settings with which it runs to be saved, with
that value set. -/
theorem run_set_cases {σ : Type} [WordSource σ] (host : Host) (source : σ) {key value : String}
    (hcommand : invocation.command = .settings (.set key value)) :
    (∃ text, Program.run host invocation source = .done (.failure text)) ∨
      ∃ p after text, settingsFor host invocation = .ok p ∧ p.set key value = .ok after ∧
        Program.run host invocation source = .save after text := by
  cases hsettings : settingsFor host invocation with
  | error text => exact .inl ⟨text, by rw [Program.run, hsettings]⟩
  | ok p =>
    have hrun : Program.run host invocation source =
        .ofResult (changeSettings host p (.set key value)) := by
      simp only [Program.run, hsettings, hcommand]
    cases hset : p.set key value with
    | error cause =>
      refine .inl ⟨(CommandError.setting cause).message, ?_⟩
      rw [hrun, changeSettings, hset]
      rfl
    | ok after =>
      refine .inr ⟨p, after, s!"Set {key} = {value}", rfl, hset, ?_⟩
      rw [hrun, changeSettings, hset]
      rfl

/-- A request to save that ends with success was carried out. -/
theorem save_of_settle {settings : ProgramSettings} {text : String}
    (h : (s.settle (.save settings text)).1.code = 0) :
    s.save settings = .ok (s.settle (.save settings text)).2 := by
  rw [settle] at h ⊢
  cases hsave : s.save settings with
  | ok next => rfl
  | error cause =>
    rw [hsave] at h
    exact absurd h (Outcome.failure_code_ne _)

/-- **What setting a value leaves in the file.** If the command succeeds, the settings with which it
runs are stored, with the value set. What was stored before has changed in nothing but that value
exactly if the settings with which the command runs agree with it on all that the key does not stand
for. -/
theorem stored?_run_set {σ : Type} [WordSource σ] {words : List String} {source : σ}
    {key value : String} {before : ProgramSettings}
    (hrequest : requestOf env words = .run invocation)
    (hcommand : invocation.command = .settings (.set key value))
    (hstored : s.stored? = some before) (hcode : (s.run env words source).1.code = 0) :
    ∃ engine after,
      s.engineFor env invocation.engineFile before = .ok engine ∧
      ProgramSettings.set { before with engine } key value = .ok after ∧
      (s.run env words source).2.stored? = some after ∧
      (before.set key value = .ok after ↔
        ∀ y : Setting, key ∉ y.keys → ProgramSettings.SameAt { before with engine } before y) := by
  have hrun : s.run env words source =
      s.settle (Program.run (s.host env) invocation source) := by
    rw [run, hrequest, Request.perform]
  rw [hrun] at hcode ⊢
  obtain ⟨text, hfail⟩ | ⟨p, after, text, hsettings, hset, hsave⟩ :=
    run_set_cases (s.host env) source hcommand
  · rw [hfail] at hcode
    exact absurd hcode (Outcome.failure_code_ne text)
  · rw [hsave] at hcode ⊢
    obtain ⟨hengine, hformat⟩ := eq_of_settingsFor hstored hsettings
    -- The command saves `p` with the value set, so `p` and `before` are what has to be compared.
    have hp : { before with engine := p.engine } = p := by rw [← hformat]
    refine ⟨p.engine, after, hengine, hp ▸ hset, stored?_of_save (save_of_settle hcode), ?_⟩
    rw [hp]
    exact ProgramSettings.set_congr_iff hset

/-- A directory in which three attempts are stored, and nothing besides. -/
def sparseHome : Session where
  home := "/home/u"
  files := .ofFiles [(".idm/idm.toml", "[generator]\nmax_attempts = 3\n".toUTF8)]

/-- The environment says something of the attempts only, and it is these that are set. -/
theorem stored?_run_set_attempts :
    requestOf fiveAttempts ["config", "set", "max_attempts", "7"] =
        .run { command := .settings (.set "max_attempts" "7") } ∧
      sparseHome.stored? = some { engine := fewAttempts } ∧
      ∃ after, ProgramSettings.set { engine := fewAttempts } "max_attempts" "7" = .ok after ∧
        (sparseHome.run fiveAttempts ["config", "set", "max_attempts", "7"]
          (CyclicWords.ofList [])).2.stored? = some after := by
  have hrequest : requestOf fiveAttempts ["config", "set", "max_attempts", "7"] =
      .run { command := .settings (.set "max_attempts" "7") } := by decide +kernel
  have hstored : sparseHome.stored? = some { engine := fewAttempts } := by decide +kernel
  obtain ⟨engine, after, hengine, -, hafter, hsame⟩ :=
    stored?_run_set hrequest rfl hstored
      (show (sparseHome.run fiveAttempts ["config", "set", "max_attempts", "7"]
        (CyclicWords.ofList [])).1.code = 0 by decide +kernel)
  have hfive : sparseHome.engineFor fiveAttempts none { engine := fewAttempts } =
      .ok { generator.maxAttempts := 5 } := by decide
  obtain rfl := Except.ok.inj (hfive.symm.trans hengine)
  refine ⟨hrequest, hstored, after, hsame.2 fun y hy => ?_, hafter⟩
  cases y with
  | maxAttempts => exact absurd (by decide) hy
  | outputFormat | logLevel | logTarget => rfl

/-- An environment in which everything is to be logged. -/
def traceLog : Environment := fun name => if name = levelVariable then some "trace" else none

/-- The environment says what is logged, the format is set, and both are stored. -/
theorem stored?_run_set_format_ne :
    ∃ before after, sparseHome.stored? = some before ∧ before.set "output" "json" = .ok after ∧
      (sparseHome.run traceLog ["config", "set", "output", "json"] (CyclicWords.ofList [])).1.code =
        0 ∧
      (sparseHome.run traceLog ["config", "set", "output", "json"]
        (CyclicWords.ofList [])).2.stored? ≠ some after :=
  ⟨{ engine := fewAttempts }, { outputFormat := .json, engine := fewAttempts }, by decide +kernel⟩

end Session

end Program

end CredentialPolicy
