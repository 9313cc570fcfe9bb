import BlobRetrieval.Config.Settings
import BlobRetrieval.Files

/-!
# Where the configuration comes from

A file named on the command line has to be there and to be right. The file in the
default place is used if it is right; if it is not text, or not there, the defaults
are used silently, and if it is text that cannot be used, with a warning.
-/

set_option autoImplicit false

namespace BlobRetrieval

inductive ConfigError where
  | invalid
  | unreadable (path : String)
  | invalidFile (path : String)
  deriving DecidableEq

def ConfigError.message : ConfigError → String
  | .invalid => "invalid config"
  | .unreadable path => "failed to read config at " ++ path
  | .invalidFile path => "in " ++ path

namespace Config

def defaultFile : String := "blob-sidecar-fetcher/config.toml"

structure Loaded where
  config : Config
  ignored : Bool := false
  deriving DecidableEq

def ignoredWarning (folder : String) : String :=
  "warning: failed to parse config at " ++ folder ++ "/" ++ defaultFile ++ ", using defaults"

def ofText (text : String) : Except ConfigError Config :=
  match ofDocument? text with
  | some config => .ok config
  | none => .error .invalid

def ofFile (files : Files) (path : String) : Except ConfigError Config :=
  match (files.content? path).bind Utf8.text? with
  | none => .error (.unreadable path)
  | some text =>
    match ofDocument? text with
    | none => .error (.invalidFile path)
    | some config => .ok config

def ofDefaultFile (content : Option Bytes) : Loaded :=
  match content.bind Utf8.text? with
  | none => { config := default }
  | some text =>
    match ofDocument? text with
    | none => { config := default, ignored := true }
    | some config => { config }

def load (files : Files) (content : Option Bytes) (explicit : Option String) :
    Except ConfigError Loaded :=
  match explicit with
  | some path => (ofFile files path).map fun config => { config }
  | none => .ok (ofDefaultFile content)

end Config

end BlobRetrieval
