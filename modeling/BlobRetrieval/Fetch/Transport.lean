import BlobRetrieval.Fetch.Outcome
import BlobRetrieval.Url.Reader

/-!
# Transports

A transport sends a request and follows the redirects that come back, up to a number of
hops. What counts as an address, and where a redirect leads, is for the HTTP library behind
it to say: both are fields of a transport. `standard` has them for plain addresses, with
hosts as far as `Url.Host` goes, and has no cookies, proxies or connections that are kept.
-/

set_option autoImplicit false

namespace BlobRetrieval

structure Request where
  method : String
  url : String
  accept : String
  userAgent : Option String
  deriving DecidableEq

/-- A response as the server sends it. `declaredLength` is the length it announces where that
is not the length of the body. -/
structure Response where
  status : UInt16
  contentType : Option Bytes := none
  body : Bytes := []
  declaredLength : Option Nat := none

-- A response with a location comes with what the next server would do, if it were asked.
inductive Delivery where
  | unreachable
  | unanswered
  | answered (response : Response)
  | redirected (response : Response) (location : Bytes) (next : Request → Delivery)

abbrev Network := Request → Delivery

def Network.received (network : Network) (requests : List Request) : List Request :=
  requests.filter fun request =>
    match network request with
    | .unreachable => false
    | _ => true

def Delivery.response? : Delivery → Option Response
  | .unreachable => none
  | .unanswered => none
  | .answered response => some response
  | .redirected response _ _ => some response

namespace Response

def isHeaderBlank (b : UInt8) : Bool :=
  b == 32 || b == 9

def isHeaderText (b : UInt8) : Bool :=
  (32 ≤ b && b ≤ 126) || b == 9

def headerText? (value : Bytes) : Option String :=
  let trimmed := ((value.dropWhile isHeaderBlank).reverse.dropWhile isHeaderBlank).reverse
  if trimmed.all isHeaderText then
    some (String.ofList (trimmed.map fun b => Char.ofNat b.toNat))
  else none

def contentTypeText? (r : Response) : Option String :=
  r.contentType.bind headerText?

def payload? (r : Response) : Option Bytes :=
  match r.declaredLength with
  | none => some r.body
  | some length => if length ≤ r.body.length then some (r.body.take length) else none

end Response

inductive Onward where
  | stay
  | go (url : String)
  | refused (error : HttpError)
  deriving DecidableEq

structure Transport where
  address : String → Except HttpError String
  onward : String → UInt16 → Bytes → Onward
  hops : Nat := 10

structure Reply where
  place : String
  response : Response

structure Sending where
  sent : List Request
  reply : Except HttpError Reply

namespace Transport

-- `place` is the normal form of the address that the request at hand goes to.
def follow (t : Transport) : Nat → String → Request → Delivery → Sending
  | _, place, request, .unreachable => ⟨[request], .error (.noResponse place)⟩
  | _, place, request, .unanswered => ⟨[request], .error (.noResponse place)⟩
  | _, place, request, .answered response => ⟨[request], .ok ⟨place, response⟩⟩
  | hops, place, request, .redirected response location next =>
    match t.onward place response.status location with
    | .stay => ⟨[request], .ok ⟨place, response⟩⟩
    | .refused error => ⟨[request], .error error⟩
    | .go url =>
      match hops with
      | 0 => ⟨[request], .error (.tooManyRedirects place)⟩
      | hops + 1 =>
        let again := { request with url }
        let rest := t.follow hops url again (next again)
        ⟨request :: rest.sent, rest.reply⟩
  termination_by structural _ _ _ delivery => delivery

def send (t : Transport) (network : Network) (request : Request) : Sending :=
  match t.address request.url with
  | .error error => ⟨[], .error error⟩
  | .ok place => t.follow t.hops place request (network request)

end Transport

def Url.forRequest (text : String) : Except HttpError Url :=
  match Url.ofText? text with
  | none => .error .notAnUrl
  | some url => if url.isRequestable then .ok url else .error (.unusableUrl url.toText)

namespace Transport

def redirectStatuses : List UInt16 :=
  [301, 302, 303, 307, 308]

def locationFront (base : Url) (location : List Char) : List Char :=
  let scheme := base.scheme.toList ++ [':']
  let origin := scheme ++ (base.authority.map Url.Authority.text).getD []
  let path := Url.pathText base.authority.isSome base.path
  match location with
  | '/' :: '/' :: _ => scheme
  | '/' :: _ => origin
  | '?' :: _ => origin ++ path
  | [] => origin ++ path ++ Url.partText '?' base.query
  | '#' :: _ => origin ++ path ++ Url.partText '?' base.query
  | _ => origin ++ (path.reverse.dropWhile (· ≠ '/')).reverse

def located? (place location : String) : Option Url :=
  (Url.ofText? location).or do
    let base ← Url.ofText? place
    Url.ofText? (String.ofList (locationFront base location.toList ++ location.toList))

def standard : Transport where
  address text := (Url.forRequest text).map Url.toText
  onward place status location :=
    if redirectStatuses.contains status then
      match (Response.headerText? location).bind (located? place) with
      | none => .stay
      | some url => if url.isRequestable then .go url.toText else .refused (.unusableUrl url.toText)
    else .stay

end Transport

end BlobRetrieval
