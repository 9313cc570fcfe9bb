import BlobRetrieval.Json.Typed

/-!
# Byte values in JSON

A byte value is a string of hexadecimal digits or an array of numbers. Where the
length is known, one element too many is noticed if it is a number of one byte;
whatever else comes there is read, and then the closing bracket has to follow.
-/

set_option autoImplicit false

namespace BlobRetrieval.Json

open Reader

def octets (n : Nat) : Reader (ByteVector n) := do
  let bytes ← exactly readOctet (.exactlyBytes n) n []
  let surplus ← attempt do
    if ← moreElements false then
      let b ← readOctet
      return some b
    else return none
  match surplus with
  | .ok (some _) => failUnplaced (.wrongLength (n + 1) (.exactlyBytes n))
  | _ =>
    match ByteVector.ofBytes? bytes with
    | some v => return v
    | none => failUnplaced (.wrongLength bytes.length (.exactlyBytes n))

def readVector (n : Nat) : Reader (ByteVector n) :=
  placed do
    match ← startValue with
    | .string text =>
      match Hex.decodeVector n (Utf8.encode text) with
      | .ok v => return v
      | .error e => failUnplaced (.hex e)
    | .array => within closeArray (octets n)
    | other => refuseStarted (.byteVector n) other

def readBytes : Reader Bytes :=
  placed do
    match ← startValue with
    | .string text =>
      match Hex.decode (Utf8.encode text) with
      | .ok bytes => return bytes
      | .error _ => failUnplaced (.wrongValue (.string text) .hexText)
    | .array => within closeArray do
      elements readOctet (← budget) []
    | other => refuseStarted .byteString other

def readBlob : Reader Blob := do
  match Blob.ofBytes (← readBytes) with
  | .ok b => return b
  | .error e => failUnplaced (.blobLength e)

end BlobRetrieval.Json
