import BlobRetrieval.Hex
import BlobRetrieval.Text.Utf8

/-!
# Percent signs in addresses

A byte is written as a percent sign and two hexadecimal digits where its character
may not stand as itself. Which characters those are depends on the part of the
address.
-/

set_option autoImplicit false

namespace BlobRetrieval.Percent

def isControl (c : Char) : Bool :=
  c.toNat < 0x20 || 0x7E < c.toNat

def inFragment (c : Char) : Bool :=
  isControl c || c = ' ' || c = '"' || c = '<' || c = '>' || c.toNat = 0x60

def inQuery (c : Char) : Bool :=
  isControl c || c = ' ' || c = '"' || c = '<' || c = '>' || c = '#'

def inSpecialQuery (c : Char) : Bool :=
  inQuery c || c = '\''

def inPath (c : Char) : Bool :=
  inFragment c || c = '#' || c = '?' || c = '\x7b' || c = '\x7d'

def byte (b : UInt8) : List Char :=
  '%' :: (Hex.pair b).map Char.toUpper

def encode (needed : Char → Bool) (text : List Char) : List Char :=
  text.flatMap fun c => if needed c then (Utf8.encode [c]).flatMap byte else [c]

def decode : Bytes → Bytes
  | 37 :: high :: low :: rest =>
    match Hex.digit? high, Hex.digit? low with
    | some h, some l => UInt8.ofNat (16 * h + l) :: decode rest
    | _, _ => 37 :: decode (high :: low :: rest)
  | b :: rest => b :: decode rest
  | [] => []

end BlobRetrieval.Percent
