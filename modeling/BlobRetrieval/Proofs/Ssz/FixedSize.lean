import Mathlib.Data.Set.Function
import BlobRetrieval.Proofs.Ssz.Parts

/-!
# Values of fixed size

A record of fixed size is written field after field, and the room of its fields is what its
writer announces, what its reader asks for and what it takes in a buffer. So every field has a
place of its own, and the records are the byte strings of one length, each of them written in
one way.
-/

set_option autoImplicit false

namespace BlobRetrieval.Ssz

variable {α : Type} {n : Nat}

structure Field (α : Type) where
  {β : Type}
  {width : Nat}
  layout : Layout β width
  get : α → β

def Field.write (f : Field α) (a : α) : Bytes :=
  f.layout.write (f.get a)

theorem Field.length_write (f : Field α) (a : α) : (f.write a).length = f.width :=
  f.layout.length_write (f.get a)

def room : List (Field α) → Nat
  | [] => 0
  | f :: fields => f.width + room fields

def append (fields : List (Field α)) (buffer : Bytes) (a : α) : Bytes :=
  fields.foldl (fun buffer f => buffer ++ f.write a) buffer

section Fields

variable (fields : List (Field α)) (a : α)

theorem append_eq (buffer : Bytes) :
    append fields buffer a = buffer ++ fields.flatMap (·.write a) := by
  induction fields generalizing buffer with
  | nil => rw [List.flatMap_nil, List.append_nil]; rfl
  | cons f fields ih =>
    change append fields (buffer ++ f.write a) a = _
    rw [ih, List.flatMap_cons, List.append_assoc]

theorem window_flatMap_fields (i : Nat) (h : i < fields.length) :
    window (fields.flatMap (·.write a)) (room (fields.take i)) fields[i].width =
      fields[i].write a := by
  induction fields generalizing i with
  | nil => contradiction
  | cons f fields ih =>
    have hf := f.length_write a
    cases i with
    | zero => exact List.take_left' hf
    | succ i =>
      have hroom : room ((f :: fields).take (i + 1)) = f.width + room (fields.take i) := rfl
      rw [hroom, window, List.flatMap_cons, ← List.drop_drop, List.drop_left' hf]
      exact ih i (Nat.lt_of_succ_lt_succ h)

end Fields

structure Layout.FixedSize (layout : Layout α n) (fields : List (Field α)) : Prop where
  announced : layout.extent = .fixed (room fields)
  wanted : layout.wanted = .fixed (room fields)
  appended : ∀ buffer a, append fields buffer a = buffer ++ layout.write a
  measured : ∀ a, layout.bytesLength a = room fields
  length : ∀ a, (layout.write a).length = room fields
  placed : ∀ a i, ∀ h : i < fields.length,
    window (layout.write a) (room (fields.take i)) fields[i].width = fields[i].write a
  accepted : ∀ bytes, (∃ a, layout.read bytes = .ok a) ↔ bytes.length = room fields
  refused : ∀ bytes, bytes.length ≠ room fields →
    layout.read bytes = .error (.wrongLength bytes.length (room fields))
  inverse : ∀ bytes a, layout.read bytes = .ok a ↔ layout.write a = bytes
  bijective : Set.BijOn layout.write Set.univ {bytes | bytes.length = room fields}

theorem Layout.Faithful.fixedSize {layout : Layout α n} (hf : layout.Faithful)
    {fields : List (Field α)} (hroom : room fields = n)
    (hwrite : ∀ a, layout.write a = fields.flatMap (·.write a)) : layout.FixedSize fields where
  announced := by rw [hroom]; rfl
  wanted := by rw [hroom]; exact layout.wanted_eq
  appended buffer a := by rw [append_eq, hwrite]
  measured a := by rw [hroom]; rfl
  length a := by rw [hroom, layout.length_write]
  placed a i h := by rw [hwrite, window_flatMap_fields]
  accepted bytes := by
    rw [hroom]
    constructor
    · rintro ⟨a, ha⟩
      rw [(hf.read_eq_ok bytes a).mp ha, layout.length_write]
    · intro hlength
      obtain ⟨a, ha⟩ := hf.exists_write bytes hlength
      exact ⟨a, (hf.read_eq_ok bytes a).mpr ha⟩
  refused bytes h := by
    rw [hroom] at h ⊢
    exact layout.read_of_length_ne h
  inverse bytes a := by rw [hf.read_eq_ok, eq_comm]
  bijective := by
    rw [hroom]
    refine ⟨fun a _ => layout.length_write a, fun a _ b _ h => hf.write_inj h, ?_⟩
    intro bytes hlength
    obtain ⟨a, ha⟩ := hf.exists_write bytes hlength
    exact ⟨a, Set.mem_univ a, ha.symm⟩

def branchAt (p : InclusionProof) (d : Fin proofDepth) : Root :=
  p.branches.get (d.cast p.length_eq.symm)

def blobFields : List (Field Blob) :=
  [⟨vector blobSize, id⟩]

def branchFields : List (Field InclusionProof) :=
  List.ofFn fun d => ⟨vector rootSize, (branchAt · d)⟩

def headerFields : List (Field BlockHeader) :=
  [⟨uint64, (·.slot)⟩, ⟨uint64, (·.proposerIndex)⟩, ⟨vector rootSize, (·.parentRoot)⟩,
    ⟨vector rootSize, (·.stateRoot)⟩, ⟨vector rootSize, (·.bodyRoot)⟩]

def signedHeaderFields : List (Field SignedBlockHeader) :=
  [⟨header, (·.message)⟩, ⟨vector signatureSize, (·.signature)⟩]

def sidecarFields : List (Field Sidecar) :=
  [⟨uint64, (·.index)⟩, ⟨vector blobSize, (·.blob)⟩, ⟨vector commitmentSize, (·.commitment)⟩,
    ⟨vector commitmentSize, (·.proof)⟩, ⟨signedHeader, (·.header)⟩,
    ⟨inclusionProof, (·.inclusion)⟩]

theorem blob_fixedSize : (vector blobSize).FixedSize blobFields :=
  (vector_faithful blobSize).fixedSize rfl fun _ => (List.append_nil _).symm

theorem ofFn_branchAt (p : InclusionProof) : List.ofFn (branchAt p) = p.branches := by
  apply List.ext_getElem
  · rw [List.length_ofFn, p.length_eq]
  · intro d hd _
    rw [List.getElem_ofFn]
    rfl

theorem write_inclusionProof (p : InclusionProof) :
    inclusionProof.write p = branchFields.flatMap (·.write p) := by
  change p.branches.flatMap (·.bytes) = _
  rw [← ofFn_branchAt p, List.flatMap, List.flatMap, branchFields, List.map_ofFn, List.map_ofFn]
  rfl

theorem inclusionProof_fixedSize : inclusionProof.FixedSize branchFields :=
  inclusionProof_faithful.fixedSize rfl write_inclusionProof

theorem header_fixedSize : header.FixedSize headerFields := by
  refine header_faithful.fixedSize rfl fun h => ?_
  change uint64.write h.slot ++ uint64.write h.proposerIndex ++ h.parentRoot.bytes
    ++ h.stateRoot.bytes ++ h.bodyRoot.bytes = _
  simp only [headerFields, List.flatMap_cons, List.flatMap_nil, List.append_nil, List.append_assoc]
  rfl

theorem signedHeader_fixedSize : signedHeader.FixedSize signedHeaderFields := by
  refine signedHeader_faithful.fixedSize rfl fun h => ?_
  change header.write h.message ++ h.signature.bytes = _
  simp only [signedHeaderFields, List.flatMap_cons, List.flatMap_nil, List.append_nil]
  rfl

theorem sidecar_fixedSize : sidecar.FixedSize sidecarFields := by
  refine sidecar_faithful.fixedSize rfl fun s => ?_
  change uint64.write s.index ++ s.blob.bytes ++ s.commitment.bytes ++ s.proof.bytes
    ++ signedHeader.write s.header ++ inclusionProof.write s.inclusion = _
  simp only [sidecarFields, List.flatMap_cons, List.flatMap_nil, List.append_nil, List.append_assoc]
  rfl

theorem branchAt_inj {p q : InclusionProof} (h : ∀ d, branchAt p d = branchAt q d) : p = q := by
  have hbranches : p.branches = q.branches := by
    rw [← ofFn_branchAt p, ← ofFn_branchAt q, funext h]
  obtain ⟨_, _⟩ := p
  cases hbranches
  rfl

theorem branchAt_decode (v : ByteVector inclusionSize) (d : Fin proofDepth) :
    (branchAt (inclusionProof.decode v) d).bytes = window v.bytes (32 * d) 32 := by
  simp only [branchAt, inclusionProof, List.get_eq_getElem, List.getElem_ofFn]
  rfl

/-- A proof is read from the byte strings that hold its branches in order and nothing else. -/
theorem read_inclusionProof_iff (bytes : Bytes) (p : InclusionProof) :
    inclusionProof.read bytes = .ok p ↔
      bytes.length = 544 ∧ ∀ d, (branchAt p d).bytes = window bytes (32 * d) 32 := by
  constructor
  · intro h
    obtain rfl := (inclusionProof_faithful.read_eq_ok bytes p).mp h
    refine ⟨inclusionProof.length_write p, fun d => ?_⟩
    have hbranch := branchAt_decode (inclusionProof.encode p) d
    rwa [inclusionProof_faithful.decode_encode] at hbranch
  · rintro ⟨hlength, hbranches⟩
    change bytes.length = inclusionSize at hlength
    have hp : inclusionProof.decode ⟨bytes, hlength⟩ = p := by
      apply branchAt_inj
      intro d
      apply ByteVector.ext
      rw [branchAt_decode, hbranches]
    rw [inclusionProof.read_of_length hlength, hp]

/-- Blobs, inclusion proofs, headers, signed headers and sidecars have the size of their fields
together. Writers announce it and readers ask for it, the fields stand in a buffer one after the
other behind what is there, and every byte string of this size is written by one value, which is
read from it. Every branch of an inclusion proof keeps its place. -/
theorem fixed_sizes :
    ((vector blobSize).FixedSize blobFields ∧ room blobFields = 131072) ∧
    (inclusionProof.FixedSize branchFields ∧ room branchFields = 17 * 32) ∧
    (header.FixedSize headerFields ∧ room headerFields = 8 + 8 + 32 + 32 + 32) ∧
    (signedHeader.FixedSize signedHeaderFields ∧ room signedHeaderFields = 112 + 96) ∧
    (sidecar.FixedSize sidecarFields ∧
      room sidecarFields = 8 + 131072 + 48 + 48 + 208 + 17 * 32) ∧
    ∀ bytes p, inclusionProof.read bytes = .ok p ↔
      bytes.length = 544 ∧ ∀ d, (branchAt p d).bytes = window bytes (32 * d) 32 :=
  ⟨⟨blob_fixedSize, rfl⟩, ⟨inclusionProof_fixedSize, rfl⟩, ⟨header_fixedSize, rfl⟩,
    ⟨signedHeader_fixedSize, rfl⟩, ⟨sidecar_fixedSize, rfl⟩, read_inclusionProof_iff⟩

end BlobRetrieval.Ssz
