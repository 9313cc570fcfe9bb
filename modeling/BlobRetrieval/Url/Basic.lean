import BlobRetrieval.Url.Host

/-!
# Addresses

An address in parts, and its normal form as a text. Names and passwords in front of
a host are not kept: they go into a header and are not shown.
-/

set_option autoImplicit false

namespace BlobRetrieval

structure Authority where
  host : Host
  service : Option Nat := none
  deriving DecidableEq

inductive UrlPath where
  | names (segments : List (List Char))
  | unparted (text : List Char)
  deriving DecidableEq

structure Url where
  scheme : String
  authority : Option Authority
  path : UrlPath
  query : Option (List Char) := none
  fragment : Option (List Char) := none
  deriving DecidableEq

namespace Url

def services : List (String × Nat) :=
  [("http", 80), ("https", 443), ("ws", 80), ("wss", 443), ("ftp", 21)]

def fileScheme : String := "file"

def isSpecial (scheme : String) : Bool :=
  (services.lookup scheme).isSome || scheme = fileScheme

def Authority.text (a : Authority) : List Char :=
  '/' :: '/' :: (a.host.toText ++
    (match a.service with
      | some n => ':' :: Decimal.digits n
      | none => []))

def pathText (hosted : Bool) : UrlPath → List Char
  | .unparted text => text
  | .names segments =>
    let text := segments.flatMap ('/' :: ·)
    if !hosted && ['/', '/'].isPrefixOf text then '/' :: '.' :: text else text

def partText (mark : Char) : Option (List Char) → List Char
  | some text => mark :: text
  | none => []

def toText (url : Url) : String :=
  String.ofList (url.scheme.toList ++ ':' :: (((url.authority.map Authority.text).getD [])
    ++ pathText url.authority.isSome url.path
    ++ partText '?' url.query ++ partText '#' url.fragment))

def sizeLimit : Nat := 65534

def isBarred (c : Char) : Bool :=
  c = '"' || c.toNat = 0x60 || c = '\x7b' || c = '\x7d'

def isRequestable (url : Url) : Bool :=
  (url.scheme = "http" || url.scheme = "https")
    && (match url.authority with
      | some a => !a.host.toText.any isBarred
      | none => false)
    && url.toText.length ≤ sizeLimit

end Url

end BlobRetrieval
