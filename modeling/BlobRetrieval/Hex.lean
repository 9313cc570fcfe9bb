import BlobRetrieval.Bytes

/-!
# Hexadecimal text

Bytes are written as two lower-case digits each, high half first. Reading takes
digits of either case behind an optional `0x` or `0X`, and works on the bytes of
the text, so that a place in it is counted in bytes.
-/

set_option autoImplicit false

namespace BlobRetrieval.Hex

def pair (b : UInt8) : List Char :=
  [Nat.digitChar (b.toNat / 16), Nat.digitChar (b.toNat % 16)]

def encode (bs : Bytes) : List Char :=
  bs.flatMap pair

def marked (bs : Bytes) : List Char :=
  '0' :: 'x' :: encode bs

inductive Error where
  | oddLength
  | wrongLength
  | badDigit (byte : UInt8) (position : Nat)
  deriving DecidableEq

def digit? (b : UInt8) : Option Nat :=
  if 48 ≤ b ∧ b ≤ 57 then some (b.toNat - 48)
  else if 97 ≤ b ∧ b ≤ 102 then some (b.toNat - 87)
  else if 65 ≤ b ∧ b ≤ 70 then some (b.toNat - 55)
  else none

def unmarked : Bytes → Bytes
  | 48 :: 120 :: rest => rest
  | 48 :: 88 :: rest => rest
  | text => text

/-- Reads pairs of digits; `position` counts the bytes before them and `done` holds, last
first, the bytes that they gave. -/
def pairs (position : Nat) (done : Bytes) : Bytes → Except Error Bytes
  | high :: low :: rest =>
    match digit? high, digit? low with
    | some h, some l => pairs (position + 2) (UInt8.ofNat (16 * h + l) :: done) rest
    | none, _ => .error (.badDigit high position)
    | some _, none => .error (.badDigit low (position + 1))
  | [_] => .error .oddLength
  | [] => .ok done.reverse

def decode (text : Bytes) : Except Error Bytes :=
  if text.length % 2 = 1 then .error .oddLength
  else pairs 0 [] (unmarked text)

def decodeVector (n : Nat) (text : Bytes) : Except Error (ByteVector n) :=
  if text.length % 2 = 1 then .error .oddLength
  else if (unmarked text).length ≠ 2 * n then .error .wrongLength
  else match pairs 0 [] (unmarked text) with
    | .error e => .error e
    | .ok bytes =>
      match ByteVector.ofBytes? bytes with
      | some v => .ok v
      | none => .error .wrongLength

theorem digit?_digitChar (n : Nat) (h : n < 16) :
    digit? (UInt8.ofNat (Nat.digitChar n).toNat) = some n := by
  revert n
  decide

theorem length_encode (bs : Bytes) : (encode bs).length = 2 * bs.length := by
  induction bs with
  | nil => rfl
  | cons b bs ih =>
    simp only [encode, List.flatMap_cons, List.length_append, List.length_cons] at ih ⊢
    simp only [ih, pair, List.length_cons, List.length_nil]
    omega

end BlobRetrieval.Hex
