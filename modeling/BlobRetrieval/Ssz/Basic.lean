import BlobRetrieval.Bytes

/-!
# Binary layout

A value of fixed size is laid out as its fields one after the other, and a byte
string of any other length than theirs together is refused. A value of variable
size is represented among its neighbours by an offset.
-/

set_option autoImplicit false

namespace BlobRetrieval.Ssz

def offsetSize : Nat := 4

inductive DecodeError where
  | wrongLength (length expected : Nat)
  | shortOffset (length : Nat)
  | offsetIntoFixedPart (offset : Nat)
  | offsetPastFixedPart (offset : Nat)
  | offsetPastEnd (offset : Nat)
  deriving DecidableEq

def DecodeError.message : DecodeError → String
  | .wrongLength length expected =>
    "InvalidByteLength \x7b len: " ++ toString length ++ ", expected: " ++ toString expected
      ++ " \x7d"
  | .shortOffset length =>
    "InvalidLengthPrefix \x7b len: " ++ toString length ++ ", expected: " ++ toString offsetSize
      ++ " \x7d"
  | .offsetIntoFixedPart offset => "OffsetIntoFixedPortion(" ++ toString offset ++ ")"
  | .offsetPastFixedPart offset => "OffsetSkipsVariableBytes(" ++ toString offset ++ ")"
  | .offsetPastEnd offset => "OffsetOutOfBounds(" ++ toString offset ++ ")"

inductive Extent where
  | fixed (size : Nat)
  | behindOffset
  deriving DecidableEq

def Extent.inPlace : Extent → Nat
  | .fixed size => size
  | .behindOffset => offsetSize

def Extent.isFixed : Extent → Bool
  | .fixed _ => true
  | .behindOffset => false

structure Layout (α : Type) (n : Nat) where
  widths : List Nat
  sum_widths : widths.foldl Nat.add 0 = n
  encode : α → ByteVector n
  decode : ByteVector n → α

namespace Layout

variable {α : Type} {n : Nat}

def extent (_ : Layout α n) : Extent :=
  .fixed n

def wanted (layout : Layout α n) : Extent :=
  .fixed (layout.widths.foldl Nat.add 0)

def read (layout : Layout α n) (bytes : Bytes) : Except DecodeError α :=
  if h : bytes.length = layout.wanted.inPlace then
    .ok (layout.decode ⟨bytes, h.trans layout.sum_widths⟩)
  else .error (.wrongLength bytes.length layout.wanted.inPlace)

-- The length that a writer makes room for.
def bytesLength (layout : Layout α n) (_ : α) : Nat :=
  layout.extent.inPlace

def write (layout : Layout α n) (a : α) : Bytes :=
  (layout.encode a).bytes

theorem inPlace_wanted (layout : Layout α n) : layout.wanted.inPlace = n :=
  layout.sum_widths

theorem length_write (layout : Layout α n) (a : α) : (layout.write a).length = n :=
  (layout.encode a).length_eq

end Layout

def vector (n : Nat) : Layout (ByteVector n) n where
  widths := [n]
  sum_widths := Nat.zero_add n
  encode := id
  decode := id

def uint64 : Layout UInt64 8 where
  widths := [8]
  sum_widths := rfl
  encode v := ⟨LittleEndian.encode 8 v.toNat, LittleEndian.length_encode 8 _⟩
  decode v := UInt64.ofNat (LittleEndian.decode v.bytes)

def uint64At {n : Nat} (v : ByteVector n) (start : Nat) (h : start + 8 ≤ n) : UInt64 :=
  uint64.decode (v.slice start 8 h)

end BlobRetrieval.Ssz
