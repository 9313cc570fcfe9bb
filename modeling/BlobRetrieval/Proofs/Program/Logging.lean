import BlobRetrieval.Proofs.Log.Levels
import BlobRetrieval.Proofs.Program.Faults

/-!
# Runs that differ in their log

The level and the filter of the log decide which events a run shows, and nothing else, unless one
of two runs comes to a filter that splits a character. Where no filter is given, a run shows the
events up to its level.
-/

set_option autoImplicit false

namespace BlobRetrieval

def Environment.withFilter (env : Environment) (filter : Option String) : Environment :=
  { env with logFilter := filter }

def CommandLine.unlevelled (line : CommandLine) : CommandLine :=
  { line with logLevel := none }

def CommandLine.limit? (line : CommandLine) (env : Environment) : Option Level :=
  (line.level? env).bind fun level => Level.ofText? level.toList

theorem CommandLine.task?_congr {line other : CommandLine} (hcommand : line.command = other.command)
    (config : Config) (transport : Transport) :
    (line.settings config).task? transport line.command =
      (other.settings config).task? transport other.command := by
  rw [task?_settings, task?_settings, hcommand]

def SameButLevel (arguments others : List String) : Prop :=
  (CommandLine.ofArguments arguments).map CommandLine.unlevelled =
    (CommandLine.ofArguments others).map CommandLine.unlevelled

def LevelKnown (env : Environment) (arguments : List String) : Prop :=
  ∀ line level, CommandLine.ofArguments arguments = .ok line → line.level? env = some level →
    (Level.ofText? level.toList).isSome = true

/-- Two lists of arguments that come to the same are refused for the same reason, or are read with
the same configuration file and the same command. -/
theorem SameButLevel.cases {arguments others : List String} (h : SameButLevel arguments others) :
    (∃ error, CommandLine.ofArguments arguments = .error error ∧
        CommandLine.ofArguments others = .error error) ∨
      ∃ line other, CommandLine.ofArguments arguments = .ok line ∧
        CommandLine.ofArguments others = .ok other ∧ line.config = other.config ∧
        line.command = other.command := by
  rw [SameButLevel] at h
  cases ha : CommandLine.ofArguments arguments with
  | error error =>
    cases ho : CommandLine.ofArguments others with
    | error otherError =>
      rw [ha, ho] at h
      exact .inl ⟨error, rfl, congrArg _ (Except.error.inj h).symm⟩
    | ok other =>
      rw [ha, ho] at h
      contradiction
  | ok line =>
    cases ho : CommandLine.ofArguments others with
    | error otherError =>
      rw [ha, ho] at h
      contradiction
    | ok other =>
      rw [ha, ho] at h
      have hplain := CommandLine.mk.inj (Except.ok.inj h)
      exact .inr ⟨line, other, rfl, rfl, hplain.1, hplain.2.2⟩

structure Run.SameButLog (r o : Run) : Prop where
  status : r.status = o.status
  effects : r.effects = o.effects
  configIgnored : r.configIgnored = o.configIgnored

theorem Run.sameButLog_refl (r : Run) : r.SameButLog r :=
  ⟨rfl, rfl, rfl⟩

theorem Run.status_of_effects {r o : Run} (h : r.effects = o.effects) : r.status = o.status := by
  have herror : r.error = o.error := congrArg Effects.error h
  have hcrashed : r.crashed = o.crashed := congrArg Effects.crashed h
  rw [status, status, herror, hcrashed]

theorem Settings.events_congr {s t : Settings} {command other : Command} {system : System}
    (htask : s.task? system.transport command = t.task? system.transport other)
    (env : Environment) (servers : Servers) (filter : Option String) (config : Config) :
    s.events env servers system config command =
      t.events (env.withFilter filter) servers system config other := by
  rw [events, events, htask, Environment.withFilter]

theorem Settings.loggedEffects_congr {s t : Settings} {command other : Command} {system : System}
    (htask : s.task? system.transport command = t.task? system.transport other)
    (env : Environment) (servers : Servers) (filter : Option String) :
    s.loggedEffects env servers system command =
      t.loggedEffects (env.withFilter filter) servers system other := by
  rw [loggedEffects, loggedEffects, htask]
  rfl

namespace Program

def Crashes (env : Environment) (arguments : List String) : Prop :=
  ∃ line, CommandLine.ofArguments arguments = .ok line ∧ line.Crashes env

theorem not_crashes_of_usage_error {env : Environment} {arguments : List String}
    {error : UsageError} (hline : CommandLine.ofArguments arguments = .error error) :
    ¬Crashes env arguments := by
  rintro ⟨line, hread, -⟩
  rw [hline] at hread
  cases hread

theorem not_crashes_arguments {env : Environment} {arguments : List String} {line : CommandLine}
    {error : ConfigError} (hline : CommandLine.ofArguments arguments = .ok line)
    (hload : Config.load env.files env.defaultConfig line.config = .error error) :
    ¬Crashes env arguments := by
  rintro ⟨other, hother, hcrash⟩
  rw [← Except.ok.inj (hline.symm.trans hother)] at hcrash
  exact not_crashes_of_load_error hload hcrash

section Accepted

variable {env : Environment} {arguments : List String} {line : CommandLine}
  {loaded : Config.Loaded} (h : Accepts env arguments line loaded) (servers : Servers)
  (system : System)

include h

theorem run_configIgnored :
    (run env servers arguments system).configIgnored = loaded.ignored := by
  rw [run, prepare_of_accepts h, setUp]
  cases Filter.choose env.logFilter (line.logLevel.getD loaded.config.logLevel) with
  | error fault => cases fault <;> rfl
  | ok filter =>
    cases Task.ofCommand loaded.config line.command system.transport with
    | none => rfl
    | some task => cases system.noClient <;> rfl

theorem crashes_arguments_iff : Crashes env arguments ↔ line.Crashes env := by
  constructor
  · rintro ⟨other, hother, hcrash⟩
    rw [Except.ok.inj (h.line_eq.symm.trans hother)]
    exact hcrash
  · intro hcrash
    exact ⟨line, h.line_eq, hcrash⟩

/-- With a level that is known, it is left to the filter that is given whether a run crashes. -/
theorem run_effects_of_level (hlevel : LevelKnown env arguments) :
    (Crashes env arguments ∧ (run env servers arguments system).effects = env.crashed) ∨
      (¬Crashes env arguments ∧ (run env servers arguments system).effects =
        (line.settings loaded.config).loggedEffects env servers system line.command) := by
  have hknown := hlevel line _ h.line_eq (level?_of_accepts h)
  rw [crashes_arguments_iff h, crashes_iff h, run_effects h, Settings.effects]
  cases hfilter : (line.settings loaded.config).filter env with
  | ok filter =>
    refine .inr ⟨fun h => ?_, rfl⟩
    cases h
  | error fault =>
    cases fault with
    | crash => exact .inl ⟨rfl, rfl⟩
    | unknownLevel =>
      rw [(Filter.choose_eq_unknownLevel.mp hfilter).2] at hknown
      contradiction

theorem run_crashed (hlevel : LevelKnown env arguments) :
    (run env servers arguments system).effects.crashed = true ↔ Crashes env arguments := by
  rcases run_effects_of_level h servers system hlevel with ⟨hcrash, hr⟩ | ⟨hsafe, hr⟩
  · rw [hr]
    exact iff_of_true rfl hcrash
  · rw [hr, Settings.crashed_loggedEffects]
    exact iff_of_false nofun hsafe

theorem run_log_of_limit (hfilter : env.logFilter = none) {limit : Level}
    (hlimit : line.limit? env = some limit) :
    (run env servers arguments system).log =
      ((line.settings loaded.config).events env servers system loaded.config
        line.command).filter fun e => limit.shows e.level := by
  rw [CommandLine.limit?, level?_of_accepts h, Option.bind_some] at hlimit
  have hchosen : (line.settings loaded.config).filter env = .ok (Filter.ofLevel limit) := by
    rw [Settings.filter, Filter.choose, hfilter, Option.map_none, Filter.forLevel, hlimit,
      Option.elim_some]
  rw [run_log h servers system hchosen, Filter.filter_ofLevel]

end Accepted

section TwoRuns

variable {env : Environment} {filter : Option String} {arguments others : List String}
  {line other : CommandLine} {loaded : Config.Loaded} (h : Accepts env arguments line loaded)
  (hother : Accepts (env.withFilter filter) others other loaded)
  (hcommand : line.command = other.command) (servers : Servers) (system : System)

include h hother hcommand

theorem run_sameButLog_iff (hlevel : LevelKnown env arguments)
    (hotherLevel : LevelKnown (env.withFilter filter) others) :
    (run env servers arguments system).SameButLog
        (run (env.withFilter filter) servers others system) ↔
      (Crashes env arguments ↔ Crashes (env.withFilter filter) others) := by
  constructor
  · intro hsame
    rw [← run_crashed h servers system hlevel, ← run_crashed hother servers system hotherLevel,
      hsame.effects]
  · intro hiff
    have hlogged := Settings.loggedEffects_congr
      (CommandLine.task?_congr hcommand loaded.config system.transport) env servers filter
    have heffects : (run env servers arguments system).effects =
        (run (env.withFilter filter) servers others system).effects := by
      rcases run_effects_of_level h servers system hlevel with ⟨hcrash, hr⟩ | ⟨hsafe, hr⟩
      · rcases run_effects_of_level hother servers system hotherLevel with ⟨-, ho⟩ | ⟨hsafe, -⟩
        · exact hr.trans ho.symm
        · exact absurd (hiff.mp hcrash) hsafe
      · rcases run_effects_of_level hother servers system hotherLevel with ⟨hcrash, -⟩ | ⟨-, ho⟩
        · exact absurd (hiff.mpr hcrash) hsafe
        · rw [hr, hlogged, ho]
    refine ⟨Run.status_of_effects heffects, heffects, ?_⟩
    rw [run_configIgnored h servers system, run_configIgnored hother servers system]

theorem run_log_narrowed (hnone : env.logFilter = none) (hfilter : filter = none)
    {limit otherLimit : Level} (hlimit : line.limit? env = some limit)
    (hotherLimit : other.limit? (env.withFilter filter) = some otherLimit)
    (hle : limit.rank ≤ otherLimit.rank) :
    (run env servers arguments system).log.Sublist
        (run (env.withFilter filter) servers others system).log ∧
      (limit = .off → (run env servers arguments system).log = []) := by
  have hevents := Settings.events_congr
    (CommandLine.task?_congr hcommand loaded.config system.transport) env servers filter
    loaded.config
  rw [run_log_of_limit h servers system hnone hlimit,
    run_log_of_limit hother servers system hfilter hotherLimit, hevents]
  constructor
  · exact Level.sublist_shown hle _
  · intro hoff
    rw [hoff, Level.shown_off]

end TwoRuns

/-- Two runs end with the same error before anything is logged, or else both of them come to the
same configuration and the same command. -/
theorem runs_of_sameButLevel {arguments others : List String} (h : SameButLevel arguments others)
    (env : Environment) (filter : Option String) (servers : Servers) (system : System) :
    (∃ error, run env servers arguments system = { files := env.files, error := some error } ∧
        run (env.withFilter filter) servers others system =
          { files := env.files, error := some error } ∧
        ¬Crashes env arguments ∧ ¬Crashes (env.withFilter filter) others) ∨
      ∃ line other loaded, Accepts env arguments line loaded ∧
        Accepts (env.withFilter filter) others other loaded ∧ line.command = other.command := by
  rcases h.cases with ⟨error, hline, hrest⟩ | ⟨line, other, hline, hrest, hconfig, hcommand⟩
  · exact .inl ⟨.usage error, run_of_usage_error hline servers, run_of_usage_error hrest servers,
      not_crashes_of_usage_error hline, not_crashes_of_usage_error hrest⟩
  · cases hload : Config.load env.files env.defaultConfig line.config with
    | error error =>
      have hrestLoad : Config.load (env.withFilter filter).files
          (env.withFilter filter).defaultConfig other.config = .error error :=
        hconfig ▸ hload
      exact .inl ⟨.config error, run_of_load_error hline hload servers,
        run_of_load_error hrest hrestLoad servers, not_crashes_arguments hline hload,
        not_crashes_arguments hrest hrestLoad⟩
    | ok loaded =>
      exact .inr ⟨line, other, loaded, ⟨hline, hload⟩, ⟨hrest, hconfig ▸ hload⟩, hcommand⟩

/-- Two runs that differ in the level and the filter of the log do the same, unless just one of
them comes to a filter that it does not survive. Where no filter is given, the less verbose run
shows events of the other one, in their order, and none at `off`. -/
theorem run_logged {env : Environment} {arguments others : List String}
    (hsame : SameButLevel arguments others) (hlevel : LevelKnown env arguments)
    (hother : LevelKnown env others) (filter : Option String) (servers : Servers)
    (system : System) :
    let r := run env servers arguments system
    let o := run (env.withFilter filter) servers others system
    (r.SameButLog o ↔ (Crashes env arguments ↔ Crashes (env.withFilter filter) others)) ∧
      (env.logFilter = none → filter = none → ∀ line other limit otherLimit,
        CommandLine.ofArguments arguments = .ok line → CommandLine.ofArguments others = .ok other →
        line.limit? env = some limit → other.limit? env = some otherLimit →
        limit.rank ≤ otherLimit.rank →
          (r.log.map Event.line).Sublist (o.log.map Event.line) ∧ (limit = .off → r.log = [])) := by
  intro r o
  rcases runs_of_sameButLevel hsame env filter servers system with
    ⟨error, hr, ho, hsafe, hotherSafe⟩ | ⟨line, other, loaded, h, h', hcommand⟩
  · have hro : o = r := ho.trans hr.symm
    have hlog : r.log = [] := congrArg Run.log hr
    rw [hro]
    exact ⟨iff_of_true (Run.sameButLog_refl r) (iff_of_false hsafe hotherSafe),
      fun _ _ _ _ _ _ _ _ _ _ _ => ⟨.refl _, fun _ => hlog⟩⟩
  · refine ⟨run_sameButLog_iff h h' hcommand servers system hlevel hother, ?_⟩
    intro hnone hfilter named otherNamed limit otherLimit hl ho hlimit hotherLimit hle
    rw [← Except.ok.inj (h.line_eq.symm.trans hl)] at hlimit
    rw [← Except.ok.inj (h'.line_eq.symm.trans ho)] at hotherLimit
    obtain ⟨hlog, hoff⟩ :=
      run_log_narrowed h h' hcommand servers system hnone hfilter hlimit hotherLimit hle
    exact ⟨hlog.map Event.line, hoff⟩

/-- A retrieval that goes wrong, at `error` and at the most verbose level. -/
theorem run_logged_error_trace :
    let arguments := ["fetch", "7", "--log-level", "error"]
    let others := ["--log-level=TRACE", "fetch", "7"]
    let servers : Servers := fun _ _ => .answered { status := 200, body := [] }
    let r := run {} servers arguments
    let o := run ({} : Environment) servers others
    SameButLevel arguments others ∧ LevelKnown {} arguments ∧ LevelKnown {} others ∧
      r.SameButLog o ∧ (r.log.map Event.line).Sublist (o.log.map Event.line) := by
  intro arguments others servers r o
  have hline : CommandLine.ofArguments arguments =
      .ok ⟨none, some "error", .fetch "7" none none none⟩ := by rfl
  have hother : CommandLine.ofArguments others =
      .ok ⟨none, some "TRACE", .fetch "7" none none none⟩ := by rfl
  have hsame : SameButLevel arguments others := by
    rw [SameButLevel, hline, hother]
    rfl
  have hlevel : LevelKnown {} arguments := by
    intro line level hl hsome
    rw [hline] at hl
    rw [← Except.ok.inj hl] at hsome
    rw [← Option.some.inj hsome]
    rfl
  have hotherLevel : LevelKnown {} others := by
    intro line level hl hsome
    rw [hother] at hl
    rw [← Except.ok.inj hl] at hsome
    rw [← Option.some.inj hsome]
    rfl
  have hsafe : ∀ arguments : List String, ¬Crashes {} arguments := by
    rintro arguments ⟨line, -, -, text, htext, -⟩
    cases htext
  obtain ⟨hrun, hlog⟩ := run_logged hsame hlevel hotherLevel none servers {}
  exact ⟨hsame, hlevel, hotherLevel, hrun.mpr (iff_of_false (hsafe _) (hsafe _)),
    (hlog rfl rfl _ _ .error .trace hline hother rfl rfl (by decide)).1⟩

/-- The same command line twice, with no filter at first and then with one that begins with a
blank of two bytes, in which the parser takes its first part to end. -/
theorem run_logged_split :
    let env : Environment := {}
    let arguments := ["fetch", "7", "--log-level", "off"]
    let servers : Servers := fun _ _ => .unreachable
    let r := run env servers arguments
    let o := run (env.withFilter (some "\u00a0a=info")) servers arguments
    SameButLevel arguments arguments ∧ LevelKnown env arguments ∧
      r.status = 1 ∧ o.status = 101 ∧ ¬r.SameButLog o := by
  intro env arguments servers r o
  have hline : CommandLine.ofArguments arguments =
      .ok ⟨none, some "off", .fetch "7" none none none⟩ := by rfl
  have hoff : CommandLine.level? ⟨none, some "off", .fetch "7" none none none⟩ env = some "off" :=
    rfl
  have hlevel : LevelKnown env arguments := by
    intro line level hl hsome
    rw [hline] at hl
    rw [← Except.ok.inj hl, hoff] at hsome
    rw [← Option.some.inj hsome]
    rfl
  have hr : r.status = 1 := by decide +kernel
  have ho : o.status = 101 := by decide +kernel
  refine ⟨rfl, hlevel, hr, ho, fun hsame => ?_⟩
  have hstatus := hsame.status
  rw [hr, ho] at hstatus
  exact absurd hstatus (by decide)

end Program

end BlobRetrieval
