import BlobRetrieval.Fetch.Transport
import BlobRetrieval.Log.Event

/-!
# Fetching over HTTP

A client asks one server for the sidecars of an identifier. It reads a 200 response in the
requested format whatever its content type says, and logs what it did. How the request is
sent is left to its transport.
-/

set_option autoImplicit false

namespace BlobRetrieval

def trimSlashes (text : String) : String :=
  String.ofList (text.toList.reverse.dropWhile (· = '/')).reverse

def sidecarsPath : String := "/eth/v1/beacon/blob_sidecars"

def userAgent : String := "blob-sidecar-fetcher"

structure Client where
  base : String
  userAgent : Option String
  transport : Transport

namespace Client

def new (base : String) (userAgent : Option String := none)
    (transport : Transport := .standard) : Client :=
  ⟨trimSlashes base, userAgent, transport⟩

def url (client : Client) (id : String) : String :=
  client.base ++ sidecarsPath ++ "/" ++ id

def request (client : Client) (id : String) (format : Format) : Request :=
  ⟨"GET", client.url id, format.mediaType, client.userAgent⟩

structure Call where
  outcome : Outcome
  sent : List Request
  log : List Event

def contentTypeWarning (url : String) (format : Format) (response : Response) : List Event :=
  if format.accepts response.contentTypeText? then []
  else [.otherContentType url format.mediaType (response.contentTypeText?.getD "")]

def bodyEvent (url : String) (format : Format) (body : Bytes) : Event :=
  match format.decode body with
  | .ok sidecars => .decoded url sidecars.length
  | .error error => .undecodable url format (.payload error)

def receive (url : String) (format : Format) (reply : Reply) : Outcome × List Event :=
  let response := reply.response
  if h : response.status ≠ okStatus then
    (.passthrough response.status h, [.otherStatus url response.status])
  else
    let warning := contentTypeWarning url format response
    match response.payload? with
    | none =>
      let error := HttpError.bodyCutShort reply.place
      (.failed (.body error), warning ++ [.bodyUnreadable url error])
    | some body => (.ofBody format body, warning ++ [bodyEvent url format body])

def conclude (url : String) (format : Format) : Except HttpError Reply → Outcome × List Event
  | .error error => (.failed (.transport error), [.requestFailed url error])
  | .ok reply => receive url format reply

def fetch (client : Client) (network : Network) (id : String) (format : Format) : Call :=
  let url := client.url id
  let sending := client.transport.send network (client.request id format)
  let (outcome, log) := conclude url format sending.reply
  ⟨outcome, sending.sent, .fetching url format :: log⟩

end Client

end BlobRetrieval
