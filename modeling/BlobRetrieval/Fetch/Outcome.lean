import BlobRetrieval.Fetch.Format

/-!
# Outcomes of a fetch

A fetch finds sidecars, or is answered with some other status, or fails. Each
outcome shows a status, sidecars and perhaps an error; only an outcome that was
found shows any sidecars.
-/

set_option autoImplicit false

namespace BlobRetrieval

inductive HttpError where
  | notAnUrl
  | unusableUrl (url : String)
  | noResponse (url : String)
  | tooManyRedirects (url : String)
  | bodyCutShort (url : String)
  deriving DecidableEq

def HttpError.message : HttpError → String
  | .notAnUrl => "builder error"
  | .unusableUrl url => "builder error for url (" ++ url ++ ")"
  | .noResponse url => "error sending request for url (" ++ url ++ ")"
  | .tooManyRedirects url => "error following redirect for url (" ++ url ++ ")"
  | .bodyCutShort url => "error decoding response body for url (" ++ url ++ ")"

inductive FetchError where
  | transport (error : HttpError)
  | body (error : HttpError)
  | payload (error : PayloadError)
  deriving DecidableEq

def okStatus : UInt16 := 200

def transportStatus : UInt16 := 500

def notFoundStatus : UInt16 := 404

namespace FetchError

def message : FetchError → String
  | .transport error => "failed to fetch sidecars: " ++ error.message
  | .body error => "failed to read response: " ++ error.message
  | .payload (.json error) => "failed to decode json response: " ++ error.message
  | .payload (.ssz error) => "failed to decode ssz response: " ++ error.message

def isDecode : FetchError → Bool
  | .transport _ => false
  | .body _ => true
  | .payload _ => true

def status : FetchError → UInt16
  | .transport _ => transportStatus
  | .body _ => okStatus
  | .payload _ => okStatus

end FetchError

inductive Outcome where
  | found (sidecars : List Sidecar)
  | passthrough (status : UInt16) (not_ok : status ≠ okStatus)
  | failed (error : FetchError)
  deriving DecidableEq

namespace Outcome

def status : Outcome → UInt16
  | .found _ => okStatus
  | .passthrough status _ => status
  | .failed error => error.status

def sidecars : Outcome → List Sidecar
  | .found sidecars => sidecars
  | .passthrough _ _ => []
  | .failed _ => []

def error? : Outcome → Option FetchError
  | .found _ => none
  | .passthrough _ _ => none
  | .failed error => some error

def isFound (o : Outcome) : Bool :=
  o.error?.isNone && o.status == okStatus

def toExcept (o : Outcome) : Except FetchError (UInt16 × List Sidecar) :=
  match o.error? with
  | some error => .error error
  | none => .ok (o.status, o.sidecars)

def ofBody (format : Format) (body : Bytes) : Outcome :=
  match format.decode body with
  | .ok sidecars => .found sidecars
  | .error error => .failed (.payload error)

def notFound : Outcome :=
  .passthrough notFoundStatus (by decide)

end Outcome

end BlobRetrieval
