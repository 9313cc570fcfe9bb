/-!
# Byte strings

A byte string is a list of bytes, and a byte vector carries its length in its
type. Unsigned integers are laid out with their least significant byte first.
-/

set_option autoImplicit false

namespace BlobRetrieval

abbrev Bytes := List UInt8

structure ByteVector (n : Nat) where
  bytes : Bytes
  length_eq : bytes.length = n

namespace ByteVector

variable {n : Nat}

theorem ext {v w : ByteVector n} (h : v.bytes = w.bytes) : v = w := by
  cases v
  cases w
  cases h
  rfl

theorem bytes_inj {v w : ByteVector n} : v.bytes = w.bytes ↔ v = w :=
  ⟨ext, fun h => h ▸ rfl⟩

instance : DecidableEq (ByteVector n) := fun v w =>
  decidable_of_iff (v.bytes.beq w.bytes = true) (by
    rw [← bytes_inj]
    exact beq_iff_eq (α := Bytes))

def ofBytes? (bytes : Bytes) : Option (ByteVector n) :=
  if h : bytes.length = n then some ⟨bytes, h⟩ else none

theorem ofBytes?_bytes (v : ByteVector n) : ofBytes? v.bytes = some v := by
  simp [ofBytes?, v.length_eq]

theorem ofBytes?_eq_some {bytes : Bytes} {v : ByteVector n} :
    ofBytes? bytes = some v ↔ bytes = v.bytes := by
  constructor
  · intro h
    obtain ⟨_, hv⟩ := Option.dite_none_right_eq_some.mp h
    rw [← Option.some.inj hv]
  · rintro rfl
    exact ofBytes?_bytes v

def fill (n : Nat) (b : UInt8) : ByteVector n :=
  ⟨List.replicate n b, by simp⟩

def set (v : ByteVector n) (i : Nat) (b : UInt8) : ByteVector n :=
  ⟨v.bytes.set i b, by simp [v.length_eq]⟩

def slice (v : ByteVector n) (start width : Nat) (h : start + width ≤ n) : ByteVector width :=
  ⟨(v.bytes.drop start).take width, by simp [v.length_eq]; omega⟩

end ByteVector

namespace LittleEndian

def encode : Nat → Nat → Bytes
  | 0, _ => []
  | width + 1, n => UInt8.ofNat n :: encode width (n / 256)

def decode : Bytes → Nat
  | [] => 0
  | b :: bs => b.toNat + 256 * decode bs

theorem length_encode (width n : Nat) : (encode width n).length = width := by
  induction width generalizing n with
  | zero => rfl
  | succ width ih => simp [encode, ih]

theorem decode_encode (width n : Nat) : decode (encode width n) = n % Nat.pow 256 width := by
  induction width generalizing n with
  | zero => simp [encode, decode, Nat.mod_one]
  | succ width ih =>
    rw [encode, decode, ih]
    show _ = n % (Nat.pow 256 width * 256)
    rw [Nat.mul_comm (Nat.pow 256 width), Nat.mod_mul]
    simp

theorem encode_decode (bs : Bytes) : encode bs.length (decode bs) = bs := by
  induction bs with
  | nil => rfl
  | cons b bs ih =>
    have hb := b.toNat_lt
    have hq : (b.toNat + 256 * decode bs) / 256 = decode bs := by omega
    have hr : UInt8.ofNat (b.toNat + 256 * decode bs) = b := by
      apply UInt8.toNat_inj.mp
      simp only [UInt8.toNat_ofNat']
      omega
    simp only [List.length_cons, encode, decode, hq, hr, ih]

theorem decode_inj {bs cs : Bytes} (hl : bs.length = cs.length) (h : decode bs = decode cs) :
    bs = cs := by
  rw [← encode_decode bs, ← encode_decode cs, hl, h]

theorem decode_lt (bs : Bytes) : decode bs < Nat.pow 256 bs.length := by
  induction bs with
  | nil => decide
  | cons b bs ih =>
    have hb := b.toNat_lt
    show b.toNat + 256 * decode bs < Nat.pow 256 bs.length * 256
    omega

end LittleEndian

end BlobRetrieval
