import BlobRetrieval.Program.Run
import BlobRetrieval.Proofs.Compare.Questions
import BlobRetrieval.Proofs.Fetch.Errands

/-!
# What a command does under its settings

The settings of a run are the options of the command line and, where it has none, the
values of the configuration. What a run does whose command line and configuration are
accepted depends on the configuration through these settings only.
-/

set_option autoImplicit false

namespace BlobRetrieval

structure Settings where
  beaconUrl : String
  archiverUrl : Option String
  format : Format
  logLevel : String

namespace Command

def beaconOption : Command → Option String
  | .fetch _ _ url _ => url
  | .compare _ _ beaconUrl _ => beaconUrl

def archiverOption : Command → Option String
  | .fetch _ _ _ _ => none
  | .compare _ _ _ archiverUrl => archiverUrl

def formatOption : Command → Option Format
  | .fetch _ format _ _ => format
  | .compare _ format _ _ => format

end Command

def CommandLine.settings (line : CommandLine) (config : Config) : Settings where
  beaconUrl := line.command.beaconOption.getD config.beaconUrl
  archiverUrl := line.command.archiverOption.or config.archiverUrl
  format := line.command.formatOption.getD config.format
  logLevel := line.logLevel.getD config.logLevel

def Settings.filter (s : Settings) (env : Environment) : Except FilterFault Filter :=
  Filter.choose env.logFilter s.logLevel

structure Effects where
  stdout : String
  sent : List Request
  files : Files
  error : Option ProgramError
  crashed : Bool := false

def Run.effects (r : Run) : Effects :=
  ⟨r.stdout, r.sent, r.files, r.error, r.crashed⟩

def Performance.effects (p : Performance) : Effects :=
  ⟨p.stdout, p.sent, p.files, p.error.map .task, false⟩

-- What there is of a run that ends with an error before it asks anything.
def Environment.failed (env : Environment) (error : ProgramError) : Effects :=
  ⟨"", [], env.files, some error, false⟩

def Environment.crashed (env : Environment) : Effects :=
  ⟨"", [], env.files, none, true⟩

namespace Settings

variable (s : Settings) (env : Environment) (servers : Servers) (system : System)

def task? (transport : Transport) : Command → Option Task
  | .fetch id _ _ output =>
    some (.retrieve (Task.client s.beaconUrl transport) id s.format output)
  | .compare ids _ _ _ =>
    s.archiverUrl.map fun archiver =>
      .compare (Task.client s.beaconUrl transport) (Task.client archiver transport) ids s.format

-- What a command comes to where there is a filter for the log.
def loggedEffects (command : Command) : Effects :=
  match s.task? system.transport command, system.noClient with
  | none, _ => env.failed .noArchiver
  | some _, some cause => env.failed (.noClient cause)
  | some task, none => (task.perform servers env.files system.faults).effects

def effects (command : Command) : Effects :=
  match s.filter env with
  | .error .crash => env.crashed
  | .error .unknownLevel => env.failed (.logLevel s.logLevel)
  | .ok _ => s.loggedEffects env servers system command

def events (config : Config) (command : Command) : List Event :=
  Event.loadedConfig config :: match s.task? system.transport command, system.noClient with
    | some task, none => (task.perform servers env.files system.faults).log
    | _, _ => []

variable {s env system}

theorem crashed_loggedEffects (command : Command) :
    (s.loggedEffects env servers system command).crashed = false := by
  rw [loggedEffects]
  cases s.task? system.transport command with
  | none => rfl
  | some task => cases system.noClient <;> rfl

end Settings

namespace CommandLine

variable (line : CommandLine) (config : Config)

theorem filter_settings (env : Environment) : (line.settings config).filter env =
    Filter.choose env.logFilter (line.logLevel.getD config.logLevel) :=
  rfl

theorem task?_settings (transport : Transport) :
    (line.settings config).task? transport line.command =
      Task.ofCommand config line.command transport := by
  obtain ⟨path, logLevel, command⟩ := line
  cases command with
  | fetch id format url output => rfl
  | compare ids format beaconUrl archiverUrl => rfl

end CommandLine

namespace Program

structure Accepts (env : Environment) (arguments : List String) (line : CommandLine)
    (loaded : Config.Loaded) : Prop where
  line_eq : CommandLine.ofArguments arguments = .ok line
  loaded_eq : Config.load env.files env.defaultConfig line.config = .ok loaded

section Accepted

variable {env : Environment} {arguments : List String} {line : CommandLine}
  {loaded : Config.Loaded} (h : Accepts env arguments line loaded) (servers : Servers)
  (system : System)

include h

theorem prepare_of_accepts : prepare env arguments system = setUp env line loaded system := by
  simp only [prepare, h.line_eq, h.loaded_eq]

theorem run_effects : (run env servers arguments system).effects =
    (line.settings loaded.config).effects env servers system line.command := by
  rw [run, prepare_of_accepts h, setUp, Settings.effects, CommandLine.filter_settings]
  cases Filter.choose env.logFilter (line.logLevel.getD loaded.config.logLevel) with
  | error fault => cases fault <;> rfl
  | ok filter =>
    simp only [Settings.loggedEffects, CommandLine.task?_settings]
    cases Task.ofCommand loaded.config line.command system.transport with
    | none => rfl
    | some task => cases system.noClient <;> rfl

theorem run_log {filter : Filter}
    (hfilter : (line.settings loaded.config).filter env = .ok filter) :
    (run env servers arguments system).log =
      ((line.settings loaded.config).events env servers system loaded.config
        line.command).filter filter.allows := by
  rw [CommandLine.filter_settings] at hfilter
  rw [run, prepare_of_accepts h, setUp, Settings.events, CommandLine.task?_settings]
  simp only [hfilter]
  cases Task.ofCommand loaded.config line.command system.transport with
  | none => rfl
  | some task =>
    cases system.noClient with
    | none => exact (List.filter_append [_] _).symm
    | some cause => rfl

end Accepted

end Program

end BlobRetrieval
