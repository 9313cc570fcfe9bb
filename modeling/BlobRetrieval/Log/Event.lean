import BlobRetrieval.Config.Describe
import BlobRetrieval.Fetch.Outcome
import BlobRetrieval.Log.Level

/-!
# Log events

What is logged, with the level, the message and the fields of each kind of event,
and the line that shows it.
-/

set_option autoImplicit false

namespace BlobRetrieval

inductive Event where
  | fetching (url : String) (format : Format)
  | requestFailed (url : String) (error : HttpError)
  | otherStatus (url : String) (status : UInt16)
  | otherContentType (url : String) (requested received : String)
  | bodyUnreadable (url : String) (error : HttpError)
  | decoded (url : String) (count : Nat)
  | undecodable (url : String) (format : Format) (error : FetchError)
  | wrote (path : String) (bytes : Nat) (format : Format)
  | loadedConfig (config : Config)
  deriving DecidableEq

structure LogField where
  name : String
  value : String
  inQuotes : Bool := false
  deriving DecidableEq

def LogField.text (f : LogField) : String :=
  f.name ++ "=" ++ (if f.inQuotes then Quoted.text f.value.toList else f.value)

namespace Event

def level : Event → Level
  | .fetching .. => .debug
  | .requestFailed .. => .warn
  | .otherStatus .. => .debug
  | .otherContentType .. => .warn
  | .bodyUnreadable .. => .warn
  | .decoded .. => .debug
  | .undecodable .. => .warn
  | .wrote .. => .info
  | .loadedConfig .. => .debug

def message : Event → String
  | .fetching .. => "fetching blob sidecars"
  | .requestFailed .. => "blob sidecar request failed"
  | .otherStatus .. => "blob sidecar request returned non-200"
  | .otherContentType .. =>
    "content type differs from requested format, decoding as requested"
  | .bodyUnreadable .. => "failed to read blob sidecar response"
  | .decoded .. => "decoded blob sidecars"
  | .undecodable .. => "failed to decode blob sidecar response"
  | .wrote .. => "wrote sidecars"
  | .loadedConfig .. => "loaded config"

def fields : Event → List LogField
  | .fetching url format => [⟨"url", url, false⟩, ⟨"format", format.name, false⟩]
  | .requestFailed url error => [⟨"url", url, false⟩, ⟨"error", error.message, false⟩]
  | .otherStatus url status =>
    [⟨"url", url, false⟩, ⟨"status", toString status.toNat, false⟩]
  | .otherContentType url requested received =>
    [⟨"url", url, false⟩, ⟨"requested", requested, true⟩, ⟨"received", received, true⟩]
  | .bodyUnreadable url error => [⟨"url", url, false⟩, ⟨"error", error.message, false⟩]
  | .decoded url count => [⟨"url", url, false⟩, ⟨"count", toString count, false⟩]
  | .undecodable url format error =>
    [⟨"url", url, false⟩, ⟨"format", format.name, false⟩, ⟨"error", error.message, false⟩]
  | .wrote path bytes format =>
    [⟨"path", path, false⟩, ⟨"bytes", toString bytes, false⟩, ⟨"format", format.name, false⟩]
  | .loadedConfig config => [⟨"config", config.describe, false⟩]

def target : Event → String
  | .wrote .. => "blob_sidecar_fetcher::commands::fetch"
  | .loadedConfig .. => "blob_sidecar_fetcher"
  | _ => "sidecar_client::client"

def line (e : Event) : String :=
  e.level.label ++ " " ++ e.message ++ String.join (e.fields.map fun f => " " ++ f.text)

end Event

end BlobRetrieval
