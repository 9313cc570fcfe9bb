import BlobRetrieval.Fetch.Wire
import BlobRetrieval.Program.Run
import Std.Async.DNS
import Std.Async.TCP
import Std.Async.Timer

/-!
# The command line program

Collects what a run finds around it, sends its requests, and shows what it did.
Everything else is decided by the run. Names of one file that are no links, and devices
other than `/dev/null`, are not told apart from files of their own.
-/

set_option autoImplicit false

namespace BlobRetrieval.Main

open Std.Async

partial def receive (socket : TCP.Socket.Client) (done : ByteArray) : Async ByteArray := do
  match ← socket.recv? 65536 with
  | some chunk => receive socket (done ++ chunk)
  | none => return done

def socketAddress (service : UInt16) : Std.Net.IPAddr → Std.Net.SocketAddress
  | .v4 addr => .v4 ⟨addr, service⟩
  | .v6 addr => .v6 ⟨addr, service⟩

inductive Received where
  | unreachable
  | unanswered
  | answered (response : Response) (location : Option Bytes)
  deriving Inhabited

def exchange (request : Request) (target : Wire.Target) : Async Received := do
  let addresses ← DNS.getAddrInfo target.host ""
  match addresses[0]? with
  | none => return .unreachable
  | some address =>
    let socket ← TCP.Socket.Client.mk
    socket.connect (socketAddress target.service address)
    socket.send (Wire.requestText request target).toUTF8
    match Wire.response? (← receive socket ByteArray.empty).toList with
    | some (response, location) => return .answered response location
    | none => return .unanswered

def timeLimit (seconds : UInt64) : Async Received := do
  sleep ⟨(seconds.toNat * 1000 : Nat)⟩
  return .unanswered

def ask (seconds : UInt64) (request : Request) : IO Received := do
  match Wire.Target.ofUrl? request.url with
  | none => return .unreachable
  | some target =>
    let sending := exchange request target
    let limited := if seconds = 0 then sending else Async.race sending (timeLimit seconds)
    match ← limited.block.toBaseIO with
    | .ok received => return received
    | .error _ => return .unreachable

-- Asks on where a redirect leads, as far as the transport would follow it.
def deliver (transport : Transport) (seconds : UInt64) :
    Nat → String → Request → IO Delivery
  | hops, place, request => do
    match ← ask seconds request with
    | .unreachable => return .unreachable
    | .unanswered => return .unanswered
    | .answered response none => return .answered response
    | .answered response (some location) =>
      let next ← match transport.onward place response.status location, hops with
        | .go url, hops + 1 => deliver transport seconds hops url { request with url }
        | _, _ => pure .unreachable
      return .redirected response location fun _ => next

def isFolder (path : String) : IO Bool := do
  match ← (IO.FS.Handle.mk (path ++ "/.") .read).toBaseIO with
  | .ok _ => return true
  | .error _ => return false

def isThere (path : String) : IO Bool := do
  match ← (IO.FS.Handle.mk path .read).toBaseIO with
  | .ok _ => return true
  | .error _ => return false

def readBytes? (path : String) : IO (Option Bytes) := do
  match ← (IO.FS.readBinFile path).toBaseIO with
  | .ok content => return some content.toList
  | .error _ => return none

def configFolder? : IO (Option String) := do
  match ← IO.getEnv "XDG_CONFIG_HOME" with
  | some folder => if folder.startsWith "/" then return some folder
  | none => pure ()
  return (← IO.getEnv "HOME").map (· ++ "/.config")

def placeOf (path : String) : Place :=
  (Files.steps path).filter (!·.isEmpty)

def textOf (place : Place) : String :=
  "/" ++ "/".intercalate place

-- Adds what lies on the way that a path takes: folders, links, and the file that it ends at.
def survey (files : Files) : Place → List String → IO Files
  | _, [] => return files
  | place, step :: rest => do
    if Files.isIdle step then survey files place rest
    else if step = ".." then survey files place.dropLast rest
    else
      let there := place ++ [step]
      let real := toString (← IO.FS.realPath (textOf there))
      let files := if real = textOf there then files
        else { files with links := (files.name there, real) :: files.links }
      let there := placeOf real
      if ← isFolder real then
        survey { files with folders := files.name there :: files.folders } there rest
      else if ← isThere real then
        return { files with contents := (files.name there, []) :: files.contents }
      else return files

def surveyed (files : Files) : Option String → IO Files
  | none => return files
  | some path => survey files (files.start path) (Files.steps path)

def configContent (files : Files) (path : String) : IO Files := do
  match (files.locate path).toOption with
  | none => return files
  | some name =>
    match ← readBytes? path with
    | some content =>
      return { files with contents := Files.put files.contents name content }
    | none =>
      return { files with contents := files.contents.filter (·.1 ≠ name) }

def filesFor (arguments : List String) : IO Files := do
  let here := ((← IO.getEnv "PWD").map placeOf).getD [""]
  match CommandLine.ofArguments arguments with
  | .error _ => return { here }
  | .ok line =>
    let output := match line.command with
      | .fetch _ _ _ output => output
      | .compare _ _ _ _ => none
    let files ← surveyed (← surveyed { here } output) line.config
    match line.config with
    | some path => configContent files path
    | none => return files

def environment (arguments : List String) (folder : Option String) : IO Environment := do
  let defaultConfig ← match folder with
    | some folder => readBytes? (folder ++ "/" ++ Config.defaultFile)
    | none => pure none
  return ⟨← filesFor arguments, defaultConfig, ← IO.getEnv "RUST_LOG"⟩

def serversFor (ready : Ready) : IO Servers := do
  let deliveries ← ready.task.questions.mapM fun q => do
    let client := ready.task.asker q.side
    let request := client.request q.id q.format
    match client.transport.address request.url with
    | .error _ => return (q, .unreachable)
    | .ok place =>
      let delivery ← deliver client.transport ready.config.timeoutSecs
        client.transport.hops place request
      return (q, delivery)
  return fun q _ => (deliveries.lookup q).getD .unreachable

def showError (error : ProgramError) : IO Unit := do
  match error with
  | .usage .helpWanted => IO.println error.message
  | .usage _ => IO.eprintln ("error: " ++ error.message)
  | _ =>
    IO.eprintln ("Error: " ++ error.message)
    for cause in error.causes do
      IO.eprintln ("Caused by: " ++ cause)

-- Writes a file, and tells the fault if it could not be written as a whole.
def writeFile (files : Files) (name : String) (content : Bytes) : IO (Option WriteFault) := do
  let path := if name.startsWith "/" then name else textOf (files.here ++ [name])
  match ← (IO.FS.Handle.mk path .write).toBaseIO with
  | .error error => return some (.refused (.system (toString error)))
  | .ok handle =>
    let writing : IO Unit := do
      handle.write (ByteArray.mk content.toArray)
      handle.flush
    match ← writing.toBaseIO with
    | .ok () => return none
    | .error error =>
      let kept := ((← readBytes? path).getD []).length
      return some (.full kept (.system (toString error)))

def faultsOf (before after : Files) : IO WriteFaults := do
  let found ← (before.changes after).mapM fun (name, content) => do
    return (name, ← writeFile before name content)
  return fun name => (found.lookup name).join

def finish (folder : Option String) (run : Run) : IO UInt32 := do
  if run.configIgnored then
    IO.eprintln (Config.ignoredWarning (folder.getD ""))
  for event in run.log do
    IO.eprintln event.line
  IO.print run.stdout
  if run.crashed then
    IO.eprintln "the log filter cannot be taken apart between two characters"
  match run.error with
  | some error => showError error
  | none => pure ()
  return run.status

end BlobRetrieval.Main

open BlobRetrieval BlobRetrieval.Main in
def main (arguments : List String) : IO UInt32 := do
  let folder ← configFolder?
  let env ← environment arguments folder
  match Program.prepare env arguments with
  | .error run => finish folder run
  | .ok ready =>
    -- The run is worked out once more with what became of its writes.
    let servers ← serversFor ready
    let faults ← faultsOf env.files (ready.finish servers).files
    finish folder (ready.finish servers { faults })
