/-!
# Decimal numbers

Numbers are written without sign or leading zeros. Reading takes one optional
plus sign and any number of leading zeros, and stops at a bound.
-/

set_option autoImplicit false

namespace BlobRetrieval.Decimal

def digits (n : Nat) : List Char :=
  Nat.toDigits 10 n

def digit? (c : Char) : Option Nat :=
  if c.isDigit then some (c.toNat - 48) else none

def extend? (bound value : Nat) : List Char → Option Nat
  | [] => some value
  | c :: rest =>
    match digit? c with
    | none => none
    | some d =>
      if value * 10 + d < bound then extend? bound (value * 10 + d) rest else none

def dropPlus : List Char → List Char
  | '+' :: rest => rest
  | text => text

def read? (bound : Nat) (text : List Char) : Option Nat :=
  match dropPlus text with
  | [] => none
  | digits => extend? bound 0 digits

def readUInt64? (text : List Char) : Option UInt64 :=
  (read? UInt64.size text).map UInt64.ofNat

end BlobRetrieval.Decimal
