import BlobRetrieval.Sidecar.Reader
import BlobRetrieval.Sidecar.Json
import BlobRetrieval.Ssz.Sidecar
import BlobRetrieval.Text.AsciiCase
import BlobRetrieval.Text.Blank
import BlobRetrieval.Text.Lowercase

/-!
# Response formats

The two encodings that a collection of sidecars is asked for and read in, and the
content types that go with them.
-/

set_option autoImplicit false

namespace BlobRetrieval

inductive Format where
  | json
  | ssz
  deriving DecidableEq, Inhabited

inductive PayloadError where
  | json (error : Json.Error)
  | ssz (error : Ssz.ListError)
  deriving DecidableEq

namespace Format

def name : Format → String
  | .json => "json"
  | .ssz => "ssz"

def mediaType : Format → String
  | .json => "application/json"
  | .ssz => "application/octet-stream"

structure Unknown where
  name : String
  deriving DecidableEq

def Unknown.message (e : Unknown) : String :=
  "unknown format `" ++ e.name ++ "`, expected `json` or `ssz`"

def ofText (text : String) : Except Unknown Format :=
  if lowercase text = Format.json.name then .ok .json
  else if lowercase text = Format.ssz.name then .ok .ssz
  else .error ⟨lowercase text⟩

def decode (format : Format) (body : Bytes) : Except PayloadError (List Sidecar) :=
  match format with
  | .json => (Json.decode envelope.read body).mapError .json
  | .ssz => (Ssz.decodeList body).mapError .ssz

def encode (format : Format) (sidecars : List Sidecar) : Bytes :=
  match format with
  | .json => Utf8.encode (sidecarsToJson sidecars).pretty
  | .ssz => Ssz.encodeList sidecars

def essence (contentType : String) : List Char :=
  trimBlank (contentType.toList.takeWhile (· ≠ ';'))

def accepts (format : Format) : Option String → Bool
  | none => true
  | some contentType =>
    sameIgnoringCase (essence contentType) format.mediaType.toList

end Format

end BlobRetrieval
