import BlobRetrieval.CommandLine.Arguments
import BlobRetrieval.Config.Load
import BlobRetrieval.Log.Filter
import BlobRetrieval.Program.Task

/-!
# A run of the program

A run reads the command line, loads the configuration, sets up the log and then
carries out its task. What goes wrong before the task has no effect other than the
report of it, and a log filter that the program does not survive has not even that.
Whatever is printed is taken.
-/

set_option autoImplicit false

namespace BlobRetrieval

structure Environment where
  files : Files := {}
  defaultConfig : Option Bytes := none
  logFilter : Option String := none

-- What the program stands on. `noClient` is why no HTTP client can be built, if so.
structure System where
  transport : Transport := .standard
  noClient : Option String := none
  faults : WriteFaults := noFaults

inductive ProgramError where
  | usage (error : UsageError)
  | config (error : ConfigError)
  | logLevel (level : String)
  | noArchiver
  | noClient (cause : String)
  | task (error : TaskError)
  deriving DecidableEq

namespace ProgramError

def message : ProgramError → String
  | .usage error => error.message
  | .config error => error.message
  | .logLevel level => Level.unknownMessage level
  | .noArchiver => noArchiverMessage
  | .noClient _ => "failed to build HTTP client"
  | .task error => error.message

-- The causes behind a level that is not known, a file that cannot be read and a document that is
-- no configuration are in the words of the libraries and of the system, and are left out.
def causes : ProgramError → List String
  | .config (.invalidFile _) => [ConfigError.invalid.message]
  | .noClient cause => [cause]
  | .task error => error.causes
  | _ => []

def status : ProgramError → UInt32
  | .usage error => error.status
  | _ => 1

end ProgramError

structure Run where
  stdout : String := ""
  configIgnored : Bool := false
  log : List Event := []
  sent : List Request := []
  files : Files
  error : Option ProgramError := none
  crashed : Bool := false

def crashStatus : UInt32 := 101

def Run.status (r : Run) : UInt32 :=
  if r.crashed then crashStatus
  else match r.error with
    | none => 0
    | some error => error.status

structure Ready where
  environment : Environment
  config : Config
  configIgnored : Bool
  filter : Filter
  task : Task

namespace Ready

def firstEvents (filter : Filter) (config : Config) : List Event :=
  [Event.loadedConfig config].filter filter.allows

def finish (r : Ready) (servers : Servers) (system : System := {}) : Run :=
  let p := r.task.perform servers r.environment.files system.faults
  { stdout := p.stdout
    configIgnored := r.configIgnored
    log := firstEvents r.filter r.config ++ p.log.filter r.filter.allows
    sent := p.sent
    files := p.files
    error := p.error.map .task }

end Ready

namespace Program

def setUp (env : Environment) (line : CommandLine) (loaded : Config.Loaded)
    (system : System := {}) : Except Run Ready :=
  let config := loaded.config
  let level := line.logLevel.getD config.logLevel
  let unlogged : Run := { configIgnored := loaded.ignored, files := env.files }
  match Filter.choose env.logFilter level with
  | .error .crash => .error { unlogged with crashed := true }
  | .error .unknownLevel => .error { unlogged with error := some (.logLevel level) }
  | .ok filter =>
    let unasked : Run := { unlogged with log := Ready.firstEvents filter config }
    match Task.ofCommand config line.command system.transport, system.noClient with
    | none, _ => .error { unasked with error := some .noArchiver }
    | some _, some cause => .error { unasked with error := some (.noClient cause) }
    | some task, none => .ok ⟨env, config, loaded.ignored, filter, task⟩

def prepare (env : Environment) (arguments : List String) (system : System := {}) :
    Except Run Ready :=
  match CommandLine.ofArguments arguments with
  | .error error => .error { files := env.files, error := some (.usage error) }
  | .ok line =>
    match Config.load env.files env.defaultConfig line.config with
    | .error error => .error { files := env.files, error := some (.config error) }
    | .ok loaded => setUp env line loaded system

def run (env : Environment) (servers : Servers) (arguments : List String)
    (system : System := {}) : Run :=
  match prepare env arguments system with
  | .error r => r
  | .ok ready => ready.finish servers system

end Program

end BlobRetrieval
