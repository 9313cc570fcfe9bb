import BlobRetrieval.CommandLine.Basic
import BlobRetrieval.Compare.Check
import BlobRetrieval.Fetch.Client
import BlobRetrieval.Fetch.Retrieve

/-!
# Tasks

A task is a command with every choice made: the servers to ask, the format and the
identifiers. An option of the command goes before the configuration. What a task
does depends only on how the servers answer, on the files, and on what the system does
about writing them.
-/

set_option autoImplicit false

namespace BlobRetrieval

inductive Task where
  | retrieve (client : Client) (id : String) (format : Format) (output : Option String)
  | compare (beacon archiver : Client) (ids : List String) (format : Format)

-- The servers may change from one question to the next.
abbrev Servers := Query → Network

def noArchiverMessage : String :=
  "compare needs an archiver URL: set `archiver_url` or pass --archiver-url"

inductive TaskError where
  | retrieve (error : RetrieveError)
  | check (error : CheckError)
  deriving DecidableEq

namespace TaskError

def message : TaskError → String
  | .retrieve error => error.message
  | .check error => error.message

def causes : TaskError → List String
  | .retrieve error => error.causes
  | .check _ => []

end TaskError

structure Performance where
  stdout : String
  log : List Event
  sent : List Request
  files : Files
  error : Option TaskError

namespace Task

def client (url : String) (transport : Transport := .standard) : Client :=
  Client.new url userAgent transport

def ofCommand (config : Config) (command : Command) (transport : Transport := .standard) :
    Option Task :=
  match command with
  | .fetch id format url output =>
    some (.retrieve (client (url.getD config.beaconUrl) transport) id
      (format.getD config.format) output)
  | .compare ids format beaconUrl archiverUrl =>
    (archiverUrl.or config.archiverUrl).map fun archiver =>
      .compare (client (beaconUrl.getD config.beaconUrl) transport) (client archiver transport)
        ids (format.getD config.format)

def asker : Task → Side → Client
  | .retrieve client _ _ _, _ => client
  | .compare beacon _ _ _, .beacon => beacon
  | .compare _ archiver _ _, .archiver => archiver

def questions : Task → List Query
  | .retrieve _ id format _ => [⟨0, .beacon, id, format⟩]
  | .compare _ _ ids format => queries ids format

def ask (task : Task) (servers : Servers) (q : Query) : Client.Call :=
  (task.asker q.side).fetch (servers q) q.id q.format

def calls (task : Task) (servers : Servers) : List Client.Call :=
  task.questions.map (task.ask servers)

def perform (task : Task) (servers : Servers) (files : Files)
    (faults : WriteFaults := noFaults) : Performance :=
  let calls := task.calls servers
  let sent := calls.flatMap (·.sent)
  let log := calls.flatMap (·.log)
  match task with
  | .retrieve _ id format output =>
    let outcome := (task.ask servers ⟨0, .beacon, id, format⟩).outcome
    let r := BlobRetrieval.retrieve files id format output outcome faults
    let error := match r.result with
      | .ok () => none
      | .error error => some (.retrieve error)
    ⟨r.stdout, log ++ r.log, sent, r.files, error⟩
  | .compare _ _ ids format =>
    let results := check (fun q => (task.ask servers q).outcome) ids format
    ⟨report results, log, sent, files, (checkError? results).map .check⟩

end Task

end BlobRetrieval
