import BlobRetrieval.Fetch.Client

/-!
# Requests and responses on a connection

How a request is written to the server and a response read from it. A request asks
for a response without transfer codings, and the server closes the connection
behind it. A response is read with the location that it names, if it names one.
-/

set_option autoImplicit false

namespace BlobRetrieval.Wire

structure Target where
  host : String
  service : UInt16
  path : String
  deriving DecidableEq

def Target.ofUrl? (text : String) : Option Target := do
  let url ← Url.ofText? text
  let authority ← url.authority
  guard (url.scheme = "http")
  return {
    host := String.ofList authority.host.toText
    service := UInt16.ofNat (authority.service.getD 80)
    path := String.ofList (Url.pathText true url.path ++ Url.partText '?' url.query) }

def headerLine (name value : String) : String :=
  name ++ ": " ++ value ++ "\r\n"

def requestText (request : Request) (target : Target) : String :=
  request.method ++ " " ++ target.path ++ " HTTP/1.0\r\n"
    ++ headerLine "host" (target.host ++ ":" ++ toString target.service.toNat)
    ++ headerLine "accept" request.accept
    ++ (match request.userAgent with
      | some name => headerLine "user-agent" name
      | none => "")
    ++ "\r\n"

def headLines (done : List Bytes) (line : Bytes) : Bytes → Option (List Bytes × Bytes)
  | 13 :: 10 :: rest =>
    if line.isEmpty then some (done.reverse, rest)
    else headLines (line.reverse :: done) [] rest
  | b :: rest => headLines done (b :: line) rest
  | [] => none

def header? (name : String) (lines : List Bytes) : Option Bytes :=
  lines.findSome? fun line =>
    let front := (line.takeWhile (· ≠ 58)).map fun b => Char.ofNat b.toNat
    if sameIgnoringCase front name.toList then some ((line.dropWhile (· ≠ 58)).drop 1)
    else none

def digitsOf (text : Bytes) : List Char :=
  ((text.dropWhile Response.isHeaderBlank).takeWhile (! Response.isHeaderBlank ·)).map fun b =>
    Char.ofNat b.toNat

def statusOf (line : Bytes) : Option UInt16 :=
  (Decimal.read? UInt16.size (digitsOf (line.dropWhile (· ≠ 32)))).map UInt16.ofNat

def response? (received : Bytes) : Option (Response × Option Bytes) :=
  match headLines [] [] received with
  | some (first :: headers, body) =>
    (statusOf first).map fun status =>
      ({ status
         contentType := header? "content-type" headers
         body
         declaredLength := (header? "content-length" headers).bind fun value =>
           Decimal.read? (Nat.pow 2 64) (digitsOf value) },
        header? "location" headers)
  | _ => none

end BlobRetrieval.Wire
