import BlobRetrieval.Proofs.Log.Levels
import BlobRetrieval.Proofs.Program.Settings
import BlobRetrieval.Proofs.Text.Utf8

/-!
# Faults of the set-up

A command line that is read can still lack a configuration, a level for the log, an archiver to
compare with, or the means to ask anybody. Each of these is a fact about what the program finds,
whichever other fault there is. A run with a fault reports the first one in the order of the
set-up and has no effects, and a run without any carries out its task. The exception is a run
that comes to a log filter which splits a character: it just ends, with another status.
-/

set_option autoImplicit false

namespace BlobRetrieval

inductive Config.Unusable (files : Files) (path : String) : ConfigError → Prop
  | unreadable : files.content? path = none → Unusable files path (.unreadable path)
  | notText (content : Bytes) : files.content? path = some content →
      (∀ text, Utf8.encode text ≠ content) → Unusable files path (.unreadable path)
  | notConfig (text : String) : files.content? path = some (Utf8.encode text.toList) →
      ofDocument? text = none → Unusable files path (.invalidFile path)

def CommandLine.config? (line : CommandLine) (env : Environment) : Option Config :=
  (Config.load env.files env.defaultConfig line.config).toOption.map (·.config)

def CommandLine.level? (line : CommandLine) (env : Environment) : Option String :=
  line.logLevel.or ((line.config? env).map (·.logLevel))

inductive SetupFault (env : Environment) (line : CommandLine) (system : System) :
    ProgramError → Prop
  | config (path : String) (error : ConfigError) : line.config = some path →
      Config.Unusable env.files path error → SetupFault env line system (.config error)
  | logLevel (level : String) :
      (∀ text, env.logFilter = some text → Filter.ofText text = .error .malformed) →
      line.level? env = some level → Level.ofText? level.toList = none →
      SetupFault env line system (.logLevel level)
  | noArchiver (ids : List String) (format : Option Format) (beaconUrl : Option String) :
      line.command = .compare ids format beaconUrl none →
      (∀ config, line.config? env = some config → config.archiverUrl = none) →
      SetupFault env line system .noArchiver
  | noClient (cause : String) : system.noClient = some cause →
      SetupFault env line system (.noClient cause)

def ProgramError.stage : ProgramError → Nat
  | .usage _ => 0
  | .config _ => 1
  | .logLevel _ => 2
  | .noArchiver => 3
  | .noClient _ => 4
  | .task _ => 5

-- That the program comes as far as to a log filter that it does not survive.
structure CommandLine.Crashes (line : CommandLine) (env : Environment) : Prop where
  config : (line.config? env).isSome = true
  split : ∃ text, env.logFilter = some text ∧ Filter.ofText text = .error .split

structure Run.Unstarted (r : Run) (files : Files) (error : ProgramError) : Prop where
  status : r.status = 1
  stdout : r.stdout = ""
  sent : r.sent = []
  files : r.files = files
  error : r.error = some error

structure Run.Crashed (r : Run) (files : Files) : Prop where
  status : r.status = 101
  stdout : r.stdout = ""
  sent : r.sent = []
  files : r.files = files
  error : r.error = none

namespace Config

variable {files : Files} {path : String}

theorem text?_eq_none {content : Bytes} (h : ∀ text, Utf8.encode text ≠ content) :
    Utf8.text? content = none := by
  rw [Option.eq_none_iff_forall_ne_some]
  intro text hsome
  exact h text.toList (Utf8.text?_eq_some.mp hsome)

theorem ofFile_eq : ofFile files path =
    ((files.content? path).bind Utf8.text?).elim (.error (.unreadable path)) fun text =>
      (ofDocument? text).elim (.error (.invalidFile path)) .ok := by
  unfold ofFile
  generalize (files.content? path).bind Utf8.text? = text?
  cases text? with
  | none => simp only [Option.elim_none]
  | some text =>
    simp only [Option.elim_some]
    generalize ofDocument? text = config?
    cases config? with
    | none => simp only [Option.elim_none]
    | some config => simp only [Option.elim_some]

theorem ofFile_of_text?_eq_none (h : (files.content? path).bind Utf8.text? = none) :
    ofFile files path = .error (.unreadable path) := by
  rw [ofFile_eq, h, Option.elim_none]

theorem ofFile_of_text?_eq_some {text : String} {config? : Option Config}
    (h : (files.content? path).bind Utf8.text? = some text) (hc : ofDocument? text = config?) :
    ofFile files path = config?.elim (.error (.invalidFile path)) .ok := by
  rw [ofFile_eq, h, Option.elim_some, hc]

theorem ofFile_unusable {error : ConfigError} (h : Unusable files path error) :
    ofFile files path = .error error := by
  cases h with
  | unreadable h => exact ofFile_of_text?_eq_none (by rw [h, Option.bind_none])
  | notText content h ht =>
    exact ofFile_of_text?_eq_none (by rw [h, Option.bind_some, text?_eq_none ht])
  | notConfig text h hc =>
    have htext : (files.content? path).bind Utf8.text? = some text := by
      rw [h, Option.bind_some, Utf8.text?_eq_some]
    exact ofFile_of_text?_eq_some htext hc

theorem unusable_of_ofFile {error : ConfigError} (h : ofFile files path = .error error) :
    Unusable files path error := by
  cases htext : (files.content? path).bind Utf8.text? with
  | none =>
    rw [ofFile_of_text?_eq_none htext] at h
    rw [← Except.error.inj h]
    cases hf : files.content? path with
    | none => exact .unreadable hf
    | some content =>
      rw [hf, Option.bind_some] at htext
      refine .notText content hf fun text hencode => ?_
      rw [← String.toList_ofList (l := text), ← Utf8.text?_eq_some, htext] at hencode
      contradiction
  | some text =>
    obtain ⟨content, hf, ht⟩ := Option.bind_eq_some_iff.mp htext
    generalize hc : ofDocument? text = config?
    rw [ofFile_of_text?_eq_some htext hc] at h
    cases config? with
    | none =>
      rw [← Except.error.inj h]
      exact .notConfig text (by rw [hf, Utf8.text?_eq_some.mp ht]) hc
    | some config => contradiction

theorem load_eq_error {content : Option Bytes} {explicit : Option String} {error : ConfigError} :
    load files content explicit = .error error ↔
      ∃ path, explicit = some path ∧ Unusable files path error := by
  cases explicit with
  | none => simp [load]
  | some path =>
    have hload : load files content (some path) = .error error ↔
        ofFile files path = .error error := by
      rw [load]
      generalize ofFile files path = loaded
      cases loaded <;> simp [Except.map]
    rw [hload]
    constructor
    · intro h
      exact ⟨path, rfl, unusable_of_ofFile h⟩
    · intro h
      obtain ⟨named, hpath, hunusable⟩ := h
      rw [Option.some.inj hpath]
      exact ofFile_unusable hunusable

end Config

theorem Run.unstarted_of_effects {r : Run} {env : Environment} {error : ProgramError}
    (h : r.effects = env.failed error) (hs : error.status = 1) : r.Unstarted env.files error where
  status := by
    have herror : r.error = some error := congrArg Effects.error h
    have hcrashed : r.crashed = false := congrArg Effects.crashed h
    rw [Run.status, herror, hcrashed]
    exact hs
  stdout := congrArg Effects.stdout h
  sent := congrArg Effects.sent h
  files := congrArg Effects.files h
  error := congrArg Effects.error h

theorem Run.crashed_of_effects {r : Run} {env : Environment} (h : r.effects = env.crashed) :
    r.Crashed env.files where
  status := by
    have hcrashed : r.crashed = true := congrArg Effects.crashed h
    rw [Run.status, hcrashed]
    rfl
  stdout := congrArg Effects.stdout h
  sent := congrArg Effects.sent h
  files := congrArg Effects.files h
  error := congrArg Effects.error h

namespace Program

variable {env : Environment} {arguments : List String} {line : CommandLine} {system : System}

theorem run_of_usage_error {error : UsageError}
    (hline : CommandLine.ofArguments arguments = .error error) (servers : Servers) :
    run env servers arguments system = { files := env.files, error := some (.usage error) } := by
  simp only [run, prepare, hline]

theorem run_of_load_error (hline : CommandLine.ofArguments arguments = .ok line)
    {error : ConfigError}
    (hload : Config.load env.files env.defaultConfig line.config = .error error)
    (servers : Servers) :
    run env servers arguments system = { files := env.files, error := some (.config error) } := by
  simp only [run, prepare, hline, hload]

theorem not_crashes_of_load_error {error : ConfigError}
    (hload : Config.load env.files env.defaultConfig line.config = .error error) :
    ¬line.Crashes env := by
  rintro ⟨hconfig, -⟩
  rw [CommandLine.config?, hload] at hconfig
  cases hconfig

theorem task?_eq_none {config : Config} {transport : Transport} :
    (line.settings config).task? transport line.command = none ↔
      ∃ ids format beaconUrl, line.command = .compare ids format beaconUrl none ∧
        config.archiverUrl = none := by
  rw [CommandLine.task?_settings]
  cases line.command with
  | fetch id format url output => simp [Task.ofCommand]
  | compare ids format beaconUrl archiverUrl => cases archiverUrl <;> simp [Task.ofCommand]

section Accepted

variable {loaded : Config.Loaded} (h : Accepts env arguments line loaded)

include h

theorem config?_of_accepts : line.config? env = some loaded.config := by
  rw [CommandLine.config?, h.loaded_eq]
  rfl

theorem level?_of_accepts :
    line.level? env = some (line.settings loaded.config).logLevel := by
  rw [CommandLine.level?, config?_of_accepts h]
  cases hl : line.logLevel <;> simp [CommandLine.settings, hl]

theorem crashes_iff : line.Crashes env ↔
    (line.settings loaded.config).filter env = .error .crash := by
  rw [Settings.filter, Filter.choose_eq_crash]
  constructor
  · intro hcrash
    exact hcrash.split
  · intro hsplit
    exact ⟨by rw [config?_of_accepts h]; rfl, hsplit⟩

/-- Once a configuration is loaded, what is left to go wrong is the filter, the task and the
client. -/
theorem setupFault_iff {fault : ProgramError} : SetupFault env line system fault ↔
    (line.settings loaded.config).filter env = .error .unknownLevel ∧
        fault = .logLevel (line.settings loaded.config).logLevel ∨
      (line.settings loaded.config).task? system.transport line.command = none ∧
        fault = .noArchiver ∨
      ∃ cause, system.noClient = some cause ∧ fault = .noClient cause := by
  have hconfig := config?_of_accepts h
  have hlevel := level?_of_accepts h
  rw [Settings.filter, Filter.choose_eq_unknownLevel, task?_eq_none]
  constructor
  · intro hf
    cases hf with
    | config path error hpath hunusable =>
      have hload : Config.load env.files env.defaultConfig line.config = .error error :=
        Config.load_eq_error.mpr ⟨path, hpath, hunusable⟩
      rw [h.loaded_eq] at hload
      contradiction
    | logLevel level hfilter hsome hunread =>
      rw [hlevel] at hsome
      rw [← Option.some.inj hsome] at hunread ⊢
      exact .inl ⟨⟨hfilter, hunread⟩, rfl⟩
    | noArchiver ids format beaconUrl hcommand hnone =>
      exact .inr (.inl ⟨⟨ids, format, beaconUrl, hcommand, hnone _ hconfig⟩, rfl⟩)
    | noClient cause hcause => exact .inr (.inr ⟨cause, hcause, rfl⟩)
  · intro hf
    rcases hf with ⟨⟨hfilter, hunread⟩, hfault⟩ | ⟨⟨ids, format, url, hcommand, hnone⟩, hfault⟩ |
      ⟨cause, hcause, hfault⟩
    · rw [hfault]
      exact .logLevel _ hfilter hlevel hunread
    · rw [hfault]
      refine .noArchiver ids format url hcommand fun config hsome => ?_
      rw [hconfig] at hsome
      rw [← Option.some.inj hsome, hnone]
    · rw [hfault]
      exact .noClient cause hcause

end Accepted

-- What a run comes to by the faults of its set-up.
structure SetUp (env : Environment) (servers : Servers) (arguments : List String)
    (line : CommandLine) (system : System) : Prop where
  failed : ∀ fault, SetupFault env line system fault → ¬line.Crashes env →
    ∃ first, SetupFault env line system first ∧
      (∀ other, SetupFault env line system other → first.stage ≤ other.stage) ∧
      (run env servers arguments system).Unstarted env.files first
  crashed : line.Crashes env → (run env servers arguments system).Crashed env.files
  performs : (∀ fault, ¬SetupFault env line system fault) → ¬line.Crashes env →
    ∃ loaded task, Accepts env arguments line loaded ∧
      Task.ofCommand loaded.config line.command system.transport = some task ∧
      (run env servers arguments system).effects =
        (task.perform servers env.files system.faults).effects

/-- The first fault of the set-up decides a run, if nothing else is done in it. -/
theorem setUp_of_first {servers : Servers} {first : ProgramError} (hsafe : ¬line.Crashes env)
    (hfirst : SetupFault env line system first)
    (hstage : ∀ other, SetupFault env line system other → first.stage ≤ other.stage)
    (hr : (run env servers arguments system).Unstarted env.files first) :
    SetUp env servers arguments line system where
  failed _ _ _ := ⟨first, hfirst, hstage, hr⟩
  crashed hcrash := absurd hcrash hsafe
  performs hnone := absurd hfirst (hnone first)

theorem setUp_of_load_error (hline : CommandLine.ofArguments arguments = .ok line)
    {error : ConfigError}
    (hload : Config.load env.files env.defaultConfig line.config = .error error)
    (servers : Servers) : SetUp env servers arguments line system := by
  obtain ⟨path, hpath, hunusable⟩ := Config.load_eq_error.mp hload
  refine setUp_of_first (not_crashes_of_load_error hload) (.config path error hpath hunusable)
    (fun other ho => ?_) ?_
  · cases ho <;> simp [ProgramError.stage]
  · rw [run_of_load_error hline hload servers]
    exact ⟨rfl, rfl, rfl, rfl, rfl⟩

section Accepted

variable {loaded : Config.Loaded} (h : Accepts env arguments line loaded) (servers : Servers)

include h

theorem setUp_of_filter_fault {fault : FilterFault}
    (hfilter : (line.settings loaded.config).filter env = .error fault) :
    SetUp env servers arguments line system := by
  have heffects := run_effects h servers system
  have hcrashes := crashes_iff h
  rw [Settings.effects, hfilter] at heffects
  rw [hfilter] at hcrashes
  cases fault with
  | crash =>
    have hcrash : line.Crashes env := hcrashes.mpr rfl
    exact ⟨fun _ _ hsafe => absurd hcrash hsafe, fun _ => Run.crashed_of_effects heffects,
      fun _ hsafe => absurd hcrash hsafe⟩
  | unknownLevel =>
    have hsafe : ¬line.Crashes env := by
      intro hcrash
      cases hcrashes.mp hcrash
    refine setUp_of_first hsafe ((setupFault_iff h).mpr (.inl ⟨hfilter, rfl⟩)) (fun other ho => ?_)
      (Run.unstarted_of_effects heffects rfl)
    rcases (setupFault_iff h).mp ho with ⟨-, hother⟩ | ⟨-, hother⟩ | ⟨cause, -, hother⟩ <;>
      simp [hother, ProgramError.stage]

theorem setUp_of_filter {filter : Filter}
    (hfilter : (line.settings loaded.config).filter env = .ok filter) :
    SetUp env servers arguments line system := by
  have heffects := run_effects h servers system
  rw [Settings.effects] at heffects
  have hsafe : ¬line.Crashes env := by
    intro hcrash
    rw [crashes_iff h, hfilter] at hcrash
    contradiction
  cases htask : (line.settings loaded.config).task? system.transport line.command with
  | none =>
    simp only [hfilter, Settings.loggedEffects, htask] at heffects
    refine setUp_of_first hsafe ((setupFault_iff h).mpr (.inr (.inl ⟨htask, rfl⟩)))
      (fun other ho => ?_) (Run.unstarted_of_effects heffects rfl)
    rcases (setupFault_iff h).mp ho with ⟨hnone, -⟩ | ⟨-, hother⟩ | ⟨cause, -, hother⟩
    · rw [hfilter] at hnone
      contradiction
    · simp [hother, ProgramError.stage]
    · simp [hother, ProgramError.stage]
  | some task =>
    cases hclient : system.noClient with
    | some cause =>
      simp only [hfilter, Settings.loggedEffects, htask, hclient] at heffects
      refine setUp_of_first hsafe (.noClient cause hclient) (fun other ho => ?_)
        (Run.unstarted_of_effects heffects rfl)
      rcases (setupFault_iff h).mp ho with ⟨hnone, -⟩ | ⟨hnone, -⟩ | ⟨cause, -, hother⟩
      · rw [hfilter] at hnone
        contradiction
      · rw [htask] at hnone
        contradiction
      · simp [hother, ProgramError.stage]
    | none =>
      simp only [hfilter, Settings.loggedEffects, htask, hclient] at heffects
      refine ⟨fun fault hf => ?_, fun hcrash => absurd hcrash hsafe, fun _ _ => ?_⟩
      · simp [setupFault_iff h, hfilter, htask, hclient] at hf
      · exact ⟨loaded, task, h, by rw [← CommandLine.task?_settings, htask], heffects⟩

end Accepted

/-- A run with a fault in its set-up reports the first one and does nothing else, whatever the
servers would do. A run without a fault carries out its task. Only a log filter that splits a
character, where it comes to that, ends a run in another way. -/
theorem run_setup (env : Environment) {arguments : List String} {line : CommandLine}
    (hline : CommandLine.ofArguments arguments = .ok line) (servers : Servers) (system : System) :
    SetUp env servers arguments line system := by
  -- The cases follow the stages of the set-up, so each one rules out the faults before it.
  cases hload : Config.load env.files env.defaultConfig line.config with
  | error error => exact setUp_of_load_error hline hload servers
  | ok loaded =>
    have h : Accepts env arguments line loaded := ⟨hline, hload⟩
    cases hfilter : (line.settings loaded.config).filter env with
    | error fault => exact setUp_of_filter_fault h servers hfilter
    | ok filter => exact setUp_of_filter h servers hfilter

/-- The file does not exist, the level is none, and no archiver is given. -/
theorem run_setup_three_faults :
    let arguments := ["--config", "nowhere.toml", "--log-level", "loud", "compare", "7"]
    let line : CommandLine := ⟨some "nowhere.toml", some "loud", .compare ["7"] none none none⟩
    let servers : Servers := fun _ _ => .answered { status := 200, body := [4, 0, 0, 0] }
    CommandLine.ofArguments arguments = .ok line ∧
      SetupFault {} line {} (.config (.unreadable "nowhere.toml")) ∧
      SetupFault {} line {} (.logLevel "loud") ∧ SetupFault {} line {} .noArchiver ∧
      (run {} servers arguments).Unstarted {} (.config (.unreadable "nowhere.toml")) := by
  intro arguments line servers
  have hline : CommandLine.ofArguments arguments = .ok line := by rfl
  have hmissing : ({} : Files).content? "nowhere.toml" = none := by decide +kernel
  have hconfig : SetupFault {} line {} (.config (.unreadable "nowhere.toml")) :=
    .config "nowhere.toml" _ rfl (.unreadable hmissing)
  have hlevel : SetupFault {} line {} (.logLevel "loud") := .logLevel "loud" nofun rfl rfl
  have hnone : line.config? {} = none := by
    rw [CommandLine.config?, Config.load_eq_error.mpr ⟨_, rfl, .unreadable hmissing⟩]
    rfl
  have harchiver : SetupFault {} line {} .noArchiver := by
    refine .noArchiver ["7"] none none rfl fun config hsome => ?_
    rw [hnone] at hsome
    contradiction
  have hsafe : ¬line.Crashes {} := by
    rintro ⟨-, text, htext, -⟩
    cases htext
  refine ⟨hline, hconfig, hlevel, harchiver, ?_⟩
  obtain ⟨first, hfirst, hstage, hrun⟩ :=
    (run_setup {} hline servers {}).failed _ hconfig hsafe
  have hle := hstage _ hconfig
  cases hfirst with
  | config path error hpath hunusable =>
    rw [← Option.some.inj hpath] at hunusable
    cases hunusable with
    | unreadable _ => exact hrun
    | notText content _ _ => exact hrun
    | notConfig text hfound _ =>
      rw [hmissing] at hfound
      contradiction
  | logLevel => simp [ProgramError.stage] at hle
  | noArchiver => simp [ProgramError.stage] at hle
  | noClient => simp [ProgramError.stage] at hle

/-- The filter begins with a blank of two bytes, in which the parser takes its first part to end.
No archiver is given, and the run does not come to say so. -/
theorem run_setup_split :
    let env : Environment := { logFilter := some "\u00a0a=info" }
    let line : CommandLine := ⟨none, none, .compare ["7"] none none none⟩
    let servers : Servers := fun _ _ => .unreachable
    let r := run env servers ["compare", "7"]
    CommandLine.ofArguments ["compare", "7"] = .ok line ∧ SetupFault env line {} .noArchiver ∧
      r.status = 101 ∧ ∀ error, ¬r.Unstarted env.files error := by
  intro env line servers r
  have hline : CommandLine.ofArguments ["compare", "7"] = .ok line := by rfl
  have hconfig : line.config? env = some .default := by rfl
  have harchiver : SetupFault env line {} .noArchiver := by
    refine .noArchiver ["7"] none none rfl fun config hsome => ?_
    rw [← Option.some.inj (hconfig.symm.trans hsome)]
    rfl
  have hstatus : r.status = 101 := by decide +kernel
  refine ⟨hline, harchiver, hstatus, fun error hr => ?_⟩
  rw [hr.status] at hstatus
  exact absurd hstatus (by decide)

end Program

end BlobRetrieval
