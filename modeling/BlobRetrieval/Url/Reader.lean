import BlobRetrieval.Url.Basic

/-!
# Reading an address

An address has a scheme; one of a server has a host behind it. Blanks at its ends
and line breaks within it do not count, and steps through a path's own folder or
the one around it are taken.
-/

set_option autoImplicit false

namespace BlobRetrieval.Url

def isSchemeChar (c : Char) : Bool :=
  c.isAlphanum || c = '+' || c = '-' || c = '.'

def isSlash (special : Bool) (c : Char) : Bool :=
  c = '/' || (special && c = '\\')

def cleaned (text : List Char) : List Char :=
  let isBlank (c : Char) : Bool := c.toNat ≤ 0x20
  (((text.dropWhile isBlank).reverse.dropWhile isBlank).reverse).filter fun c =>
    c ≠ '\t' && c ≠ '\n' && c ≠ '\r'

def parted (p : Char → Bool) (text : List Char) : List Char × List Char :=
  (text.takeWhile (!p ·), text.dropWhile (!p ·))

def credentials (text : List Char) : Option (List Char) × List Char :=
  let host := (text.reverse.takeWhile (· ≠ '@')).reverse
  if host.length = text.length then (none, text)
  else (some (text.take (text.length - host.length - 1)), host)

def hostAndService (inBrackets : Bool) (done : List Char) :
    List Char → List Char × Option (List Char)
  | [] => (done.reverse, none)
  | c :: rest =>
    if c = ':' && !inBrackets then (done.reverse, some rest)
    else
      hostAndService (if c = '[' then true else if c = ']' then false else inBrackets)
        (c :: done) rest

def service? (usual : Option Nat) : List Char → Option (Option Nat)
  | [] => some none
  | digits => do
    guard (digits.all Char.isDigit)
    let n ← Decimal.read? 65536 digits
    return if some n = usual then none else some n

def authority? (scheme : String) (text : List Char) : Option Authority := do
  let (name, rest) := credentials text
  let (host, service) := hostAndService false [] rest
  if host.isEmpty then
    guard (name.isNone && service.isNone && (services.lookup scheme).isNone)
    return ⟨.name [], none⟩
  else
    let host ← Host.ofText? (isSpecial scheme) host
    let service ← service? (services.lookup scheme) (service.getD [])
    if scheme = fileScheme then
      guard (name.isNone && service.isNone)
      return ⟨if host = .name "localhost".toList then .name [] else host, none⟩
    else return ⟨host, service⟩

def points : List (List Char) :=
  [['.'], "%2e".toList]

def isHere (segment : List Char) : Bool :=
  points.contains (segment.map Char.toLower)

def isUp (segment : List Char) : Bool :=
  let s := segment.map Char.toLower
  points.any fun a => points.any fun b => s = a ++ b

def walk (done : List (List Char)) : List (List Char) → List (List Char)
  | [] => done.reverse
  | segment :: rest =>
    if isUp segment then walk (if rest.isEmpty then [] :: done.drop 1 else done.drop 1) rest
    else if isHere segment then walk (if rest.isEmpty then [] :: done else done) rest
    else walk (Percent.encode Percent.inPath segment :: done) rest

def segments (special : Bool) (text : List Char) : List (List Char) :=
  (text.map fun c => if isSlash special c then '/' else c).splitOn '/'

def hostedPath (special : Bool) (text : List Char) : UrlPath :=
  match text with
  | [] => .names (if special then [[]] else [])
  | c :: rest => .names (walk [] (segments special (if isSlash special c then rest else c :: rest)))

def tail (special : Bool) (text : List Char) : Option (List Char) × Option (List Char) :=
  let needed := if special then Percent.inSpecialQuery else Percent.inQuery
  let (front, back) := parted (· = '#') text
  (match front with
    | _ :: query => some (Percent.encode needed query)
    | [] => none,
   match back with
    | _ :: fragment => some (Percent.encode Percent.inFragment fragment)
    | [] => none)

def isPathEnd (c : Char) : Bool :=
  c = '?' || c = '#'

def hosted? (scheme : String) (text : List Char) : Option Url := do
  let special := isSpecial scheme
  let (front, rest) := parted (fun c => isSlash special c || isPathEnd c) text
  let (path, rest) := parted isPathEnd rest
  let (query, fragment) := tail special rest
  return {
    scheme
    authority := some (← authority? scheme front)
    path := hostedPath special path
    query
    fragment }

def unhosted (scheme : String) (text : List Char) : Url :=
  let (path, rest) := parted isPathEnd text
  let (query, fragment) := tail false rest
  { scheme
    authority := none
    path := match path with
      | '/' :: names => .names (walk [] (segments false names))
      | text => .unparted (Percent.encode Percent.isControl text)
    query
    fragment }

def ofRest? (scheme : String) (rest : List Char) : Option Url :=
  let slash := isSlash (isSpecial scheme)
  if (services.lookup scheme).isSome then hosted? scheme (rest.dropWhile slash)
  else if 2 ≤ (rest.takeWhile slash).length then hosted? scheme (rest.drop 2)
  else if scheme = fileScheme then hosted? scheme ('/' :: rest.dropWhile slash)
  else some (unhosted scheme rest)

def ofText? (text : String) : Option Url :=
  match parted (!isSchemeChar ·) (cleaned text.toList) with
  | (first :: more, ':' :: rest) =>
    if first.isAlpha then
      ofRest? (String.ofList ((first :: more).map Char.toLower)) rest
    else none
  | _ => none

end BlobRetrieval.Url
