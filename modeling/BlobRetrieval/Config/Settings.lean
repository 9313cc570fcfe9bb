import BlobRetrieval.Config.Basic
import BlobRetrieval.Toml.Document

/-!
# Settings in a configuration document

Each setting is a key of the top-level table and is taken independently of the
others. A known key with a value of the wrong kind spoils the document; keys that
are not known do not matter.
-/

set_option autoImplicit false

namespace BlobRetrieval

open Toml

namespace Config

def setting {α : Type} (entries : Entries) (key : String) (read : Node → Option α) :
    Option (Option α) :=
  match entries.find? key with
  | none => some none
  | some node => (read node).map some

def textOf : Node → Option String
  | .text value => some (String.ofList value)
  | _ => none

def secondsOf : Node → Option UInt64
  | .integer value => if 0 ≤ value then some (UInt64.ofNat value.toNat) else none
  | _ => none

def isEmptyNode : Node → Bool
  | .table _ [] => true
  | .array [] => true
  | _ => false

def formatOf : Node → Option Format
  | .text name => (exactFormat name).toOption
  | .table _ [(name, inner)] =>
    if isEmptyNode inner then (exactFormat name.toList).toOption else none
  | _ => none

def draft (entries : Entries) : Option Draft := do
  return {
    beaconUrl := ← setting entries "beacon_url" textOf
    archiverUrl := (← setting entries "archiver_url" textOf).map some
    format := ← setting entries "format" formatOf
    timeoutSecs := ← setting entries "timeout_secs" secondsOf
    logLevel := ← setting entries "log_level" textOf }

def ofDocument? (text : String) : Option Config := do
  return (← draft (← Toml.parse text.toList)).complete

end Config

end BlobRetrieval
