import BlobRetrieval.Fetch.Format

/-!
# The command line

The two commands with their options, and the ways in which a command line can be
wrong.
-/

set_option autoImplicit false

namespace BlobRetrieval

inductive Command where
  | fetch (id : String) (format : Option Format) (url output : Option String)
  | compare (ids : List String) (format : Option Format) (beaconUrl archiverUrl : Option String)
  deriving DecidableEq

structure CommandLine where
  config : Option String
  logLevel : Option String
  command : Command
  deriving DecidableEq

inductive UsageError where
  | helpWanted
  | nothingGiven
  | noCommand
  | unknownCommand
  | unknownArgument
  | noIdentifier
  | noValue
  | unwantedValue
  | badValue
  | givenTwice
  deriving DecidableEq

namespace UsageError

def status : UsageError → UInt32
  | .helpWanted => 0
  | _ => 2

def message : UsageError → String
  | .helpWanted => "usage: blob-sidecar-fetcher [options] fetch ID | compare ID..."
  | .nothingGiven => "no arguments were given"
  | .noCommand => "a command is needed: fetch, compare or help"
  | .unknownCommand => "there is no such command"
  | .unknownArgument => "there is an argument that is not expected"
  | .noIdentifier => "an identifier is needed"
  | .noValue => "an option needs a value"
  | .unwantedValue => "an option takes no value"
  | .badValue => "an option has a value that it does not know"
  | .givenTwice => "an option is given twice"

end UsageError

inductive CommandName where
  | fetch
  | compare
  deriving DecidableEq

inductive Flag where
  | config
  | logLevel
  | format
  | url
  | output
  | beaconUrl
  | archiverUrl
  deriving DecidableEq

namespace Flag

def name : Flag → String
  | .config => "config"
  | .logLevel => "log-level"
  | .format => "format"
  | .url => "url"
  | .output => "output"
  | .beaconUrl => "beacon-url"
  | .archiverUrl => "archiver-url"

def anywhere : List Flag :=
  [.config, .logLevel]

def objection? (flag : Flag) (value : String) : Option UsageError :=
  match flag with
  | .config | .output => if value.isEmpty then some .noValue else none
  | .format =>
    match Format.ofText value with
    | .ok _ => none
    | .error _ => some .badValue
  | _ => none

end Flag

namespace CommandName

def name : CommandName → String
  | .fetch => "fetch"
  | .compare => "compare"

def ofText? (text : String) : Option CommandName :=
  [.fetch, .compare].find? fun command => command.name = text

def flags : CommandName → List Flag
  | .fetch => Flag.anywhere ++ [.format, .url, .output]
  | .compare => Flag.anywhere ++ [.format, .beaconUrl, .archiverUrl]

def hasRoom : CommandName → List String → Bool
  | .fetch, words => words.isEmpty
  | .compare, _ => true

end CommandName

end BlobRetrieval
