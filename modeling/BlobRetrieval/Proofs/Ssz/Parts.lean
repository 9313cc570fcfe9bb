import Mathlib.Tactic.ByContra
import BlobRetrieval.Proofs.Ssz.SidecarList
import BlobRetrieval.Sidecar.Sample

/-!
# Where the parts of a sidecar stand

In a binary list every part of every sidecar is one window of the bytes, and each byte behind the
leading offset belongs to one part of one sidecar. So a change of that byte changes this part and
no other.
-/

set_option autoImplicit false

namespace BlobRetrieval.Ssz

def window (bytes : Bytes) (start width : Nat) : Bytes :=
  (bytes.drop start).take width

section Window

variable {bytes : Bytes} {start width : Nat}

theorem length_window (bytes : Bytes) (start width : Nat) :
    (window bytes start width).length = min width (bytes.length - start) := by
  rw [window, List.length_take, List.length_drop]

theorem getElem?_window {k : Nat} (h : k < width) :
    (window bytes start width)[k]? = bytes[start + k]? := by
  rw [window, List.getElem?_take_of_lt h, List.getElem?_drop]

/-- A window of a window. -/
theorem window_window {inner narrow : Nat} (h : inner + narrow ≤ width) :
    window (window bytes start width) inner narrow = window bytes (start + inner) narrow := by
  rw [window, window, window, List.drop_take, List.take_take, List.drop_drop, Nat.min_eq_left]
  omega

/-- What is outside a window does not matter to it. -/
theorem window_set {p : Nat} (h : p < start ∨ start + width ≤ p) (x : UInt8) :
    window (bytes.set p x) start width = window bytes start width := by
  apply List.ext_getElem?
  intro k
  by_cases hk : k < width
  · rw [getElem?_window hk, getElem?_window hk, List.getElem?_set_ne (by omega)]
  · rw [List.getElem?_eq_none (by rw [length_window]; omega),
      List.getElem?_eq_none (by rw [length_window]; omega)]

/-- Every byte in a window matters to it. -/
theorem window_set_ne {p : Nat} (hl : start ≤ p) (hu : p < start + width) {x : UInt8}
    (hp : p < bytes.length) (hx : bytes[p]? ≠ some x) :
    window (bytes.set p x) start width ≠ window bytes start width := by
  intro h
  have hbyte := congrArg (fun w : Bytes => w[p - start]?) h
  rw [getElem?_window (by omega), getElem?_window (by omega), Nat.add_sub_cancel' hl,
    List.getElem?_set_self hp] at hbyte
  exact hx hbyte.symm

end Window

inductive Part where
  | index
  | blob
  | commitment
  | proof
  | slot
  | proposerIndex
  | parentRoot
  | stateRoot
  | bodyRoot
  | signature
  | branch (d : Fin proofDepth)
  deriving DecidableEq

inductive Content where
  | number (n : Nat)
  | bytes (bytes : Bytes)
  deriving DecidableEq

namespace Part

def start : Part → Nat
  | .index => 0
  | .blob => 8
  | .commitment => 131080
  | .proof => 131128
  | .slot => 131176
  | .proposerIndex => 131184
  | .parentRoot => 131192
  | .stateRoot => 131224
  | .bodyRoot => 131256
  | .signature => 131288
  | .branch d => 131384 + 32 * d

def width : Part → Nat
  | .index | .slot | .proposerIndex => 8
  | .blob => 131072
  | .commitment | .proof => 48
  | .parentRoot | .stateRoot | .bodyRoot | .branch _ => 32
  | .signature => 96

def place (i : Nat) (part : Part) : Nat :=
  4 + 131928 * i + part.start

def Owns (i : Nat) (part : Part) (p : Nat) : Prop :=
  part.place i ≤ p ∧ p < part.place i + part.width

def of (s : Sidecar) : Part → Content
  | .index => .number s.index.toNat
  | .blob => .bytes s.blob.bytes
  | .commitment => .bytes s.commitment.bytes
  | .proof => .bytes s.proof.bytes
  | .slot => .number s.header.message.slot.toNat
  | .proposerIndex => .number s.header.message.proposerIndex.toNat
  | .parentRoot => .bytes s.header.message.parentRoot.bytes
  | .stateRoot => .bytes s.header.message.stateRoot.bytes
  | .bodyRoot => .bytes s.header.message.bodyRoot.bytes
  | .signature => .bytes s.header.signature.bytes
  | .branch d => .bytes (s.inclusion.branches.get (d.cast s.inclusion.length_eq.symm)).bytes

def reading (bytes : Bytes) : Part → Content
  | .index | .slot | .proposerIndex => .number (LittleEndian.decode bytes)
  | _ => .bytes bytes

theorem start_add_width_le (part : Part) : part.start + part.width ≤ sidecarSize := by
  cases part with
  | branch d =>
    have hd : (d : Nat) < 17 := d.isLt
    simp only [start, width, sidecarSize_eq]
    omega
  | _ => decide

/-- Sidecars that agree in every part are the same. -/
theorem of_inj {s t : Sidecar} (h : ∀ part, of s part = of t part) : s = t := by
  have hbranches : s.inclusion.branches = t.inclusion.branches := by
    apply List.ext_getElem (s.inclusion.length_eq.trans t.inclusion.length_eq.symm)
    intro d hd _
    exact ByteVector.ext (Content.bytes.inj (h (.branch ⟨d, s.inclusion.length_eq ▸ hd⟩)))
  obtain ⟨_, _, _, _, ⟨⟨_, _, _, _, _⟩, _⟩, ⟨_, _⟩⟩ := s
  obtain ⟨_, _, _, _, ⟨⟨_, _, _, _, _⟩, _⟩, ⟨_, _⟩⟩ := t
  cases UInt64.toNat_inj.mp (Content.number.inj (h .index))
  cases ByteVector.ext (Content.bytes.inj (h .blob))
  cases ByteVector.ext (Content.bytes.inj (h .commitment))
  cases ByteVector.ext (Content.bytes.inj (h .proof))
  cases UInt64.toNat_inj.mp (Content.number.inj (h .slot))
  cases UInt64.toNat_inj.mp (Content.number.inj (h .proposerIndex))
  cases ByteVector.ext (Content.bytes.inj (h .parentRoot))
  cases ByteVector.ext (Content.bytes.inj (h .stateRoot))
  cases ByteVector.ext (Content.bytes.inj (h .bodyRoot))
  cases ByteVector.ext (Content.bytes.inj (h .signature))
  cases hbranches
  rfl

theorem reading_inj {part : Part} {bytes other : Bytes} (hl : bytes.length = other.length)
    (h : reading bytes part = reading other part) : bytes = other := by
  cases part with
  | index | slot | proposerIndex => exact LittleEndian.decode_inj hl (Content.number.inj h)
  | _ => exact Content.bytes.inj h

theorem bytes_slice {n : Nat} (v : ByteVector n) (start width : Nat) (h : start + width ≤ n) :
    (v.slice start width h).bytes = window v.bytes start width :=
  rfl

theorem toNat_uint64At {n : Nat} (v : ByteVector n) (start : Nat) (h : start + 8 ≤ n) :
    (uint64At v start h).toNat = LittleEndian.decode (window v.bytes start 8) := by
  have hlt := LittleEndian.decode_lt (v.slice start 8 h).bytes
  rw [(v.slice start 8 h).length_eq] at hlt
  exact UInt64.toNat_ofNat_of_lt' hlt

/-- Every part of a sidecar is read from its window, through all the records around it. -/
theorem of_decode (v : ByteVector sidecarSize) (part : Part) :
    of (sidecar.decode v) part = reading (window v.bytes part.start part.width) part := by
  cases part with
  | branch d =>
    have hd : (d : Nat) < 17 := d.isLt
    have hbranch : rootSize * d + rootSize ≤ inclusionSize := by
      simp only [rootSize, inclusionSize]
      omega
    simp only [of, reading, sidecar, inclusionProof, List.get_eq_getElem, List.getElem_ofFn,
      bytes_slice]
    exact congrArg Content.bytes (window_window hbranch)
  | slot | proposerIndex | parentRoot | stateRoot | bodyRoot | signature =>
    simp (disch := decide) only [of, reading, sidecar, signedHeader, header, toNat_uint64At,
      bytes_slice, window_window]
    rfl
  | _ =>
    simp only [of, reading, sidecar, toNat_uint64At, bytes_slice]
    rfl

theorem branch_lt {k : Nat} (h : k < sidecarSize) : (k - 131384) / 32 < proofDepth := by
  simp only [sidecarSize_eq, proofDepth] at h ⊢
  omega

def owner (k : Nat) (h : k < sidecarSize) : Part :=
  if k < 8 then .index
  else if k < 131080 then .blob
  else if k < 131128 then .commitment
  else if k < 131176 then .proof
  else if k < 131184 then .slot
  else if k < 131192 then .proposerIndex
  else if k < 131224 then .parentRoot
  else if k < 131256 then .stateRoot
  else if k < 131288 then .bodyRoot
  else if k < 131384 then .signature
  else .branch ⟨(k - 131384) / 32, branch_lt h⟩

theorem owner_eq {k : Nat} (h : k < sidecarSize) {part : Part} (hl : part.start ≤ k)
    (hu : k < part.start + part.width) : owner k h = part := by
  cases part with
  | branch d =>
    have hd : (k - 131384) / 32 = d := by
      simp only [start, width] at hl hu
      omega
    simp only [start] at hl
    simp (disch := omega) only [owner, if_neg]
    exact congrArg Part.branch (Fin.ext hd)
  | _ =>
    simp only [start, width] at hl hu
    simp (disch := omega) only [owner, if_pos, if_neg]

/-- Each part begins where the one before it ends, so no place is left out. -/
theorem exists_part {k : Nat} (h : k < sidecarSize) :
    ∃ part : Part, part.start ≤ k ∧ k < part.start + part.width := by
  by_contra hnone
  have hend (part : Part) (hstart : part.start ≤ k) : part.start + part.width ≤ k :=
    Nat.not_lt.mp fun hk => hnone ⟨part, hstart, hk⟩
  have hblob := hend .index (Nat.zero_le k)
  have hcommitment := hend .blob hblob
  have hproof := hend .commitment hcommitment
  have hslot := hend .proof hproof
  have hproposerIndex := hend .slot hslot
  have hparentRoot := hend .proposerIndex hproposerIndex
  have hstateRoot := hend .parentRoot hparentRoot
  have hbodyRoot := hend .stateRoot hstateRoot
  have hsignature := hend .bodyRoot hbodyRoot
  have hbranches := hend .signature hsignature
  simp only [start, width] at hbranches
  have hd := branch_lt h
  have hbranch := hend (.branch ⟨_, hd⟩) (by simp only [start]; omega)
  simp only [start, width, sidecarSize_eq] at hbranch h
  omega

/-- Behind the leading offset every place has one owner. -/
theorem exists_owner {p : Nat} (hp : 4 ≤ p) :
    ∃ i part, ∀ j q, Owns j q p ↔ j = i ∧ q = part := by
  have hk : (p - 4) % 131928 < sidecarSize := Nat.mod_lt (p - 4) (by decide)
  obtain ⟨part, hl, hu⟩ := exists_part hk
  have hpart := owner_eq hk hl hu
  refine ⟨(p - 4) / 131928, part, fun j q => ?_⟩
  have hq := start_add_width_le q
  simp only [sidecarSize_eq] at hq
  rw [Owns, place]
  constructor
  · rintro ⟨hfrom, hto⟩
    exact ⟨by omega, (owner_eq hk (by omega) (by omega)).symm.trans hpart⟩
  · rintro ⟨rfl, rfl⟩
    omega

end Part

open BlobRetrieval.Ssz.Part

section Lists

variable {b : Bytes} {l : List Sidecar}

theorem window_record {s : Sidecar} {i : Nat} (hi : l[i]? = some s) :
    window (encodeList l) (4 + 131928 * i) sidecarSize = sidecar.write s := by
  have hrecords : window (l.flatMap sidecar.write) (131928 * i) sidecarSize = sidecar.write s := by
    induction l generalizing i with
    | nil => contradiction
    | cons first l ih =>
      have hfirst : (sidecar.write first).length = 131928 := sidecar.length_write first
      rw [List.flatMap_cons]
      cases i with
      | zero =>
        obtain rfl : first = s := Option.some.inj hi
        exact List.take_left' hfirst
      | succ i =>
        rw [← ih hi, window, window, Nat.mul_succ, Nat.add_comm, ← List.drop_drop,
          List.drop_left' hfirst]
  rw [← hrecords, window, window, ← List.drop_drop]
  rfl

/-- Every part of every sidecar is read from its window of the list. -/
theorem of_decodeList (h : decodeList b = .ok l) {s : Sidecar} {i : Nat} (hi : l[i]? = some s)
    (part : Part) : of s part = reading (window b (place i part) part.width) part := by
  obtain ⟨-, rfl⟩ := (decodeList_eq_ok b l).mp h
  have hs := of_decode (sidecar.encode s) part
  rw [sidecar_faithful.decode_encode] at hs
  rw [hs, place, ← window_window (start_add_width_le part), window_record hi]
  rfl

/-- Behind the leading offset any bytes whatever make up sidecars. -/
theorem decodeList_set (h : decodeList b = .ok l) {p : Nat} (hp : 4 ≤ p) (x : UInt8) :
    ∃ m, decodeList (b.set p x) = .ok m ∧ m.length = l.length := by
  obtain ⟨hmax, rfl⟩ := (decodeList_eq_ok b l).mp h
  obtain ⟨content, hbytes, hlength⟩ := (framed_iff l.length _).mpr ⟨l, rfl, rfl⟩
  have hframed : Framed l.length ((encodeList l).set p x) := by
    have hfront : ([4, 0, 0, 0] : Bytes).length ≤ p := hp
    refine ⟨content.set (p - 4) x, ?_, by rw [List.length_set, hlength]⟩
    rw [hbytes, List.set_append_right p x hfront]
    rfl
  obtain ⟨m, hm, hset⟩ := (framed_iff l.length _).mp hframed
  exact ⟨m, (decodeList_eq_ok _ m).mpr ⟨by rw [hm]; exact hmax, hset⟩, hm⟩

/-- A part that does not own a place keeps what it is when the byte there is overwritten. -/
theorem of_decodeList_set (h : decodeList b = .ok l) {p : Nat} {x : UInt8} {m : List Sidecar}
    (hm : decodeList (b.set p x) = .ok m) {i : Nat} {s s' : Sidecar} (hs : l[i]? = some s)
    (hs' : m[i]? = some s') {part : Part} (howns : ¬Owns i part p) : of s' part = of s part := by
  rw [of_decodeList h hs, of_decodeList hm hs', window_set]
  rw [Owns] at howns
  omega

/-- The part that owns a place changes with the byte there. -/
theorem of_decodeList_set_ne (h : decodeList b = .ok l) {p : Nat} {x : UInt8} {m : List Sidecar}
    (hm : decodeList (b.set p x) = .ok m) {i : Nat} {s s' : Sidecar} (hs : l[i]? = some s)
    (hs' : m[i]? = some s') {part : Part} (howns : Owns i part p) (hp : p < b.length)
    (hx : b[p]? ≠ some x) : of s' part ≠ of s part := by
  rw [of_decodeList h hs, of_decodeList hm hs']
  intro hsame
  apply window_set_ne howns.1 howns.2 hp hx
  apply reading_inj _ hsame
  rw [length_window, length_window, List.length_set]

/-- The sidecars that own no part of a place stay as they are. -/
theorem decodeList_set_eq (h : decodeList b = .ok l) {p : Nat} {x : UInt8} {m : List Sidecar}
    (hm : decodeList (b.set p x) = .ok m) (hlength : m.length = l.length) {i : Nat}
    (hi : i < m.length) (howns : ∀ j part, Owns j part p → j = i) : m = l.set i m[i] := by
  apply List.ext_getElem
  · rw [List.length_set, hlength]
  · intro j hj hj'
    by_cases hji : i = j
    · subst hji
      rw [List.getElem_set_self]
    · rw [List.getElem_set_ne hji]
      apply of_inj
      intro part
      have hjl : j < l.length := hlength ▸ hj
      exact of_decodeList_set h hm (List.getElem?_eq_getElem hjl) (List.getElem?_eq_getElem hj)
        fun hown => hji (howns j part hown).symm

/-- The sidecars of a list are told from the windows of its bytes. A byte behind the leading
offset that is overwritten changes the one part of the one sidecar that owns it. -/
theorem decodeList_parts (h : decodeList b = .ok l) :
    (∀ i s, l[i]? = some s → ∀ part : Part,
      part.of s = part.reading (window b (part.place i) part.width)) ∧
    ∀ p x, 4 ≤ p → p < b.length → b[p]? ≠ some x →
      ∃ i s s', ∃ part : Part, (∀ j q, Owns j q p ↔ j = i ∧ q = part) ∧ l[i]? = some s ∧
        decodeList (b.set p x) = .ok (l.set i s') ∧ part.of s' ≠ part.of s ∧
          ∀ q : Part, q ≠ part → q.of s' = q.of s := by
  refine ⟨fun i s hi => of_decodeList h hi, ?_⟩
  intro p x hp hlt hx
  obtain ⟨m, hm, hlength⟩ := decodeList_set h hp x
  obtain ⟨i, part, hunique⟩ := exists_owner hp
  have hown : Owns i part p := (hunique i part).mpr ⟨rfl, rfl⟩
  have hi : i < l.length := by
    have hplace := hown.1
    obtain ⟨-, rfl⟩ := (decodeList_eq_ok b l).mp h
    rw [length_encodeList] at hlt
    simp only [place, offsetSize, sidecarSize_eq] at hplace hlt
    omega
  have hi' : i < m.length := hlength ▸ hi
  have hs := List.getElem?_eq_getElem hi
  have hs' := List.getElem?_eq_getElem hi'
  refine ⟨i, l[i], m[i], part, hunique, hs, ?_, ?_, ?_⟩
  · rw [hm, ← decodeList_set_eq h hm hlength hi' fun j q hq => ((hunique j q).mp hq).1]
  · exact of_decodeList_set_ne h hm hs hs' hown hlt hx
  · intro q hq
    exact of_decodeList_set h hm hs hs' fun hother => hq ((hunique i q).mp hother).2

end Lists

/-- The first byte of the proof of the second of two sidecars. -/
theorem decodeList_parts_second_proof :
    let l := [Sample.sidecar 0 10, Sample.sidecar 1 10]
    decodeList (encodeList l) = .ok l ∧ (encodeList l)[263060]? = some 43 ∧
      ∃ s', decodeList ((encodeList l).set 263060 0) = .ok [Sample.sidecar 0 10, s'] ∧
        Part.proof.of s' ≠ Part.proof.of (Sample.sidecar 1 10) ∧
          ∀ q : Part, q ≠ .proof → q.of s' = q.of (Sample.sidecar 1 10) := by
  intro l
  have h : decodeList (encodeList l) = .ok l := decodeList_encodeList l
  have hlength : (encodeList l).length = 263860 := by
    rw [length_encodeList, show l.length = 2 from rfl, offsetSize, sidecarSize_eq]
  have hproof := (decodeList_parts h).1 1 (Sample.sidecar 1 10) rfl .proof
  have hbyte : (encodeList l)[263060]? = some 43 := by
    have hfirst : (window (encodeList l) 263060 48)[0]? = (encodeList l)[263060]? :=
      getElem?_window (by decide)
    rw [← hfirst]
    exact congrArg (fun bytes : Bytes => bytes[0]?) (Content.bytes.inj hproof).symm
  obtain ⟨i, s, s', part, hunique, hs, hset, hchanged, hkept⟩ :=
    (decodeList_parts h).2 263060 0 (by decide) (by rw [hlength]; decide) (by rw [hbyte]; decide)
  obtain ⟨rfl, rfl⟩ := (hunique 1 .proof).mp ⟨by decide, by decide⟩
  obtain rfl : Sample.sidecar 1 10 = s := Option.some.inj hs
  exact ⟨h, hbyte, s', hset, hchanged, hkept⟩

end BlobRetrieval.Ssz
