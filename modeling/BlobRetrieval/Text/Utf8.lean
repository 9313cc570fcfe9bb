import BlobRetrieval.Bytes

/-!
# UTF-8

Texts are lists of characters. Writing gives each character its shortest form;
reading accepts nothing else, and on a failure tells the offset at which the
first ill-formed sequence begins.
-/

set_option autoImplicit false

namespace BlobRetrieval.Utf8

def encode (text : List Char) : Bytes :=
  text.flatMap String.utf8EncodeChar

def continues (b : UInt8) : Bool :=
  0x80 ≤ b && b ≤ 0xBF

def two (a b : UInt8) : Nat :=
  (a.toNat - 0xC0) * 64 + (b.toNat - 0x80)

def three (a b c : UInt8) : Nat :=
  (a.toNat - 0xE0) * 4096 + (b.toNat - 0x80) * 64 + (c.toNat - 0x80)

def four (a b c d : UInt8) : Nat :=
  (a.toNat - 0xF0) * 262144 + (b.toNat - 0x80) * 4096 + (c.toNat - 0x80) * 64 + (d.toNat - 0x80)

def front : Bytes → Option (Char × Nat)
  | [] => none
  | a :: rest =>
    if a < 0x80 then some (Char.ofNat a.toNat, 1)
    else if a < 0xC2 then none
    else if a < 0xE0 then
      match rest with
      | b :: _ => if continues b then some (Char.ofNat (two a b), 2) else none
      | [] => none
    else if a < 0xF0 then
      match rest with
      | b :: c :: _ =>
        if continues b && continues c && 0x800 ≤ three a b c
            && (three a b c < 0xD800 || 0xDFFF < three a b c) then
          some (Char.ofNat (three a b c), 3)
        else none
      | _ => none
    else if a < 0xF5 then
      match rest with
      | b :: c :: d :: _ =>
        if continues b && continues c && continues d
            && 0x10000 ≤ four a b c d && four a b c d ≤ 0x10FFFF then
          some (Char.ofNat (four a b c d), 4)
        else none
      | _ => none
    else none

def decodeFrom (offset skip : Nat) (done : List Char) : Bytes → Except Nat (List Char)
  | [] => .ok done.reverse
  | b :: rest =>
    match skip with
    | k + 1 => decodeFrom (offset + 1) k done rest
    | 0 =>
      match front (b :: rest) with
      | none => .error offset
      | some (c, n) => decodeFrom (offset + 1) (n - 1) (c :: done) rest

def decode (bs : Bytes) : Except Nat (List Char) :=
  decodeFrom 0 0 [] bs

def text? (bs : Bytes) : Option String :=
  match decode bs with
  | .ok cs => some (String.ofList cs)
  | .error _ => none

end BlobRetrieval.Utf8
