import BlobRetrieval.Decimal
import BlobRetrieval.Url.Percent
import BlobRetrieval.Url.Punycode

/-!
# Hosts

A server is named, or given by the number of its address. A name in other letters than
ASCII is put in lower case and then into its ASCII form; what else Unicode has to say on
such names, its replacements above all, is left out. What looks like a number has to be one.
-/

set_option autoImplicit false

namespace BlobRetrieval

inductive Host where
  | name (text : List Char)
  | v4 (address : Nat)
  | v6 (pieces : List Nat)
  deriving DecidableEq

namespace Host

def isForbidden (c : Char) : Bool :=
  c = '\x00' || c = '\t' || c = '\n' || c = '\r' || c = ' ' || c = '#' || c = '/' || c = ':'
    || c = '<' || c = '>' || c = '?' || c = '@' || c = '[' || c = '\\' || c = ']' || c = '^'
    || c = '|'

def isNameChar (c : Char) : Bool :=
  !(isForbidden c || Percent.isControl c || c = '%')

def baseAndDigits : List Char → Nat × List Char
  | '0' :: 'x' :: digits => (16, digits)
  | '0' :: c :: digits => (8, c :: digits)
  | digits => (10, digits)

def digitIn? (base : Nat) (c : Char) : Option Nat :=
  if c.toNat < 0x80 then (Hex.digit? (UInt8.ofNat c.toNat)).filter (· < base) else none

def number? (part : List Char) : Option Nat :=
  if part.isEmpty then none
  else
    let (base, digits) := baseAndDigits part
    digits.foldlM (fun n c => (digitIn? base c).map fun d => n * base + d) 0

def labels (name : List Char) : List (List Char) :=
  let parts := name.splitOn '.'
  if 1 < parts.length && parts.getLast? = some [] then parts.dropLast else parts

def endsInNumber (name : List Char) : Bool :=
  match (labels name).getLast? with
  | none => false
  | some [] => false
  | some part => part.all Char.isDigit || (number? part).isSome

def v4? (name : List Char) : Option Host := do
  let numbers ← (labels name).mapM number?
  let front := numbers.dropLast
  let last ← numbers.getLast?
  guard (front.length ≤ 3 && front.all (· ≤ 255) && last < Nat.pow 256 (4 - front.length))
  return .v4 (front.zipIdx.foldl (fun address (n, i) => address + n * Nat.pow 256 (3 - i)) last)

def plainByte? (part : List Char) : Option Nat := do
  guard (part.all Char.isDigit && (part.length ≤ 1 || part.head? ≠ some '0'))
  Decimal.read? 256 part

def piece? (part : List Char) : Option Nat := do
  guard (!part.isEmpty && part.length ≤ 4)
  part.foldlM (fun n c => (digitIn? 16 c).map fun d => n * 16 + d) 0

def pieces? : List (List Char) → Option (List Nat)
  | [] => some []
  | [part] =>
    if part.contains '.' then do
      match ← (part.splitOn '.').mapM plainByte? with
      | [a, b, c, d] => return [a * 256 + b, c * 256 + d]
      | _ => none
    else (piece? part).map ([·])
  | part :: rest => do
    return (← piece? part) :: (← pieces? rest)

def colonParts (text : List Char) : List (List Char) :=
  if text.isEmpty then [] else text.splitOn ':'

def atGap? (front : List Char) : List Char → Option (List Char × List Char)
  | ':' :: ':' :: rest => some (front.reverse, rest)
  | c :: rest => atGap? (c :: front) rest
  | [] => none

def v6? (text : List Char) : Option Host := do
  match atGap? [] text with
  | none =>
    let pieces ← pieces? (colonParts text)
    guard (pieces.length = 8)
    return .v6 pieces
  | some (front, back) =>
    guard (!front.contains '.')
    let front ← pieces? (colonParts front)
    let back ← pieces? (colonParts back)
    guard (front.length + back.length ≤ 7)
    return .v6 (front ++ List.replicate (8 - front.length - back.length) 0 ++ back)

def isLabel : List Char → Bool
  | 'x' :: 'n' :: '-' :: '-' :: label => Punycode.isLabel label
  | _ => true

def asciiLabel (label : List Char) : List Char :=
  if label.all (·.toNat < 0x80) then label
  else "xn--".toList ++ Punycode.encode (label.map lowerChar)

def named? (text : List Char) : Option Host := do
  let written := ((← Utf8.text? (Percent.decode (Utf8.encode text))).toList).map Char.toLower
  let labels := (written.splitOn '.').map asciiLabel
  let name := ['.'].intercalate labels
  guard (!name.isEmpty && name.all isNameChar && labels.all isLabel)
  if endsInNumber name then v4? name else return .name name

def ofText? (special : Bool) (text : List Char) : Option Host :=
  match text with
  | '[' :: rest => if rest.getLast? = some ']' then v6? rest.dropLast else none
  | _ =>
    if special then named? text
    else if text.any isForbidden then none
    else some (.name (Percent.encode Percent.isControl text))

def hexText (n : Nat) : List Char :=
  Nat.toDigits 16 n

def zerosIn (pieces : List Nat) : Nat :=
  (pieces.takeWhile (· = 0)).length

def longestGap (pieces : List Nat) : Nat × Nat :=
  (List.range pieces.length).foldl
    (fun best i =>
      let n := zerosIn (pieces.drop i)
      if best.2 < n then (i, n) else best) (0, 0)

def joinPieces (pieces : List Nat) : List Char :=
  [':'].intercalate (pieces.map hexText)

def v6Text (pieces : List Nat) : List Char :=
  let (start, length) := longestGap pieces
  if length < 2 then joinPieces pieces
  else joinPieces (pieces.take start) ++ ':' :: ':' :: joinPieces (pieces.drop (start + length))

def toText : Host → List Char
  | .name text => text
  | .v4 address =>
    ['.'].intercalate
      ([3, 2, 1, 0].map fun i => Decimal.digits (address / Nat.pow 256 i % 256))
  | .v6 pieces => '[' :: (v6Text pieces ++ [']'])

end Host

end BlobRetrieval
