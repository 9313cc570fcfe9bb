import BlobRetrieval.Sidecar.Basic

/-!
# Sample sidecars

A sidecar made from an index and a slot alone. Its bytes count up from a seed, so
that two samples differ in most of their fields.
-/

set_option autoImplicit false

namespace BlobRetrieval.Sample

def seed (index slot : UInt64) : UInt8 :=
  index.toUInt8 * 31 + slot.toUInt8

def blob (seed : UInt8) : Blob :=
  ⟨(List.range blobSize).map fun i => seed + UInt8.ofNat i, by simp⟩

def inclusion (seed : UInt8) : InclusionProof :=
  ⟨(List.range proofDepth).map fun d => ByteVector.fill rootSize (seed ^^^ UInt8.ofNat d),
    by simp⟩

def header (slot : UInt64) : BlockHeader where
  slot := slot
  proposerIndex := slot % 64
  parentRoot := .fill _ 0x11
  stateRoot := .fill _ 0x22
  bodyRoot := .fill _ 0x33

def sidecar (index slot : UInt64) : Sidecar where
  index := index
  blob := blob (seed index slot)
  commitment := .fill _ (seed index slot + 1)
  proof := .fill _ (seed index slot + 2)
  header := ⟨header slot, .fill _ 0x44⟩
  inclusion := inclusion (seed index slot)

end BlobRetrieval.Sample
