import Mathlib.Tactic.MkIffOfInductiveProp
import BlobRetrieval.Proofs.Json.Fields
import BlobRetrieval.Proofs.Sidecar.Meaning

/-!
# Sidecars field by field

A sidecar, and each header in it, is read from a value just if the value has every field once, or
all of them in order, and every field is read when it is taken by itself.
-/

set_option autoImplicit false

namespace BlobRetrieval

open Json

variable {value : Json}

theorem means_root (v : Json) : Means (readVector rootSize) v (vector? rootSize v) :=
  means_vector (by decide) v

namespace BlockHeader

@[mk_iff]
structure GivenBy (h : BlockHeader) (value : Json) : Prop where
  slot : FieldDecodes fieldNames value "slot" readQuoted h.slot
  proposerIndex : FieldDecodes fieldNames value "proposer_index" readQuoted h.proposerIndex
  parentRoot : FieldDecodes fieldNames value "parent_root" (readVector rootSize) h.parentRoot
  stateRoot : FieldDecodes fieldNames value "state_root" (readVector rootSize) h.stateRoot
  bodyRoot : FieldDecodes fieldNames value "body_root" (readVector rootSize) h.bodyRoot

theorem ofJson?_eq_some {h : BlockHeader} : ofJson? value = some h ↔
    (field? fieldNames value "slot".toList).bind quoted? = some h.slot ∧
    (field? fieldNames value "proposer_index".toList).bind quoted? = some h.proposerIndex ∧
    (field? fieldNames value "parent_root".toList).bind (vector? rootSize) = some h.parentRoot ∧
    (field? fieldNames value "state_root".toList).bind (vector? rootSize) = some h.stateRoot ∧
    (field? fieldNames value "body_root".toList).bind (vector? rootSize) = some h.bodyRoot := by
  obtain ⟨slot, proposerIndex, parentRoot, stateRoot, bodyRoot⟩ := h
  rw [ofJson?]
  cases hfields : fields? fieldNames value with
  | none =>
    simp only [field?, hfields, Option.bind_eq_bind, Option.bind_none, reduceCtorEq, and_self]
  | some given =>
    simp only [field?, hfields, Option.pure_def, Option.bind_eq_bind, Option.bind_some,
      Option.bind_eq_some_iff, Option.some.injEq, mk.injEq, existsAndEq, and_true]

theorem decodes_iff_givenBy (hs : Spelled value) {h : BlockHeader} :
    Decodes record.read value h ↔ h.GivenBy value := by
  have hnodup : fieldNames.Nodup := by decide
  rw [decodes_iff (means_blockHeader value) hs, ofJson?_eq_some, givenBy_iff,
    ← fieldDecodes_iff hnodup means_quoted hs, ← fieldDecodes_iff hnodup means_quoted hs,
    ← fieldDecodes_iff hnodup means_root hs, ← fieldDecodes_iff hnodup means_root hs,
    ← fieldDecodes_iff hnodup means_root hs]

end BlockHeader

namespace SignedBlockHeader

@[mk_iff]
structure GivenBy (h : SignedBlockHeader) (value : Json) : Prop where
  message : FieldDecodes fieldNames value "message" BlockHeader.record.read h.message
  signature : FieldDecodes fieldNames value "signature" (readVector signatureSize) h.signature

theorem ofJson?_eq_some {h : SignedBlockHeader} : ofJson? value = some h ↔
    (field? fieldNames value "message".toList).bind BlockHeader.ofJson? = some h.message ∧
    (field? fieldNames value "signature".toList).bind (vector? signatureSize) =
      some h.signature := by
  obtain ⟨message, signature⟩ := h
  rw [ofJson?]
  cases hfields : fields? fieldNames value with
  | none =>
    simp only [field?, hfields, Option.bind_eq_bind, Option.bind_none, reduceCtorEq, and_self]
  | some given =>
    simp only [field?, hfields, Option.pure_def, Option.bind_eq_bind, Option.bind_some,
      Option.bind_eq_some_iff, Option.some.injEq, mk.injEq, existsAndEq, and_true]

theorem decodes_iff_givenBy (hs : Spelled value) {h : SignedBlockHeader} :
    Decodes record.read value h ↔ h.GivenBy value := by
  have hnodup : fieldNames.Nodup := by decide
  rw [decodes_iff (means_signedBlockHeader value) hs, ofJson?_eq_some, givenBy_iff,
    ← fieldDecodes_iff hnodup BlockHeader.means_blockHeader hs,
    ← fieldDecodes_iff hnodup (means_vector (by decide)) hs]

end SignedBlockHeader

namespace Sidecar

@[mk_iff]
structure GivenBy (s : Sidecar) (value : Json) : Prop where
  index : FieldDecodes fieldNames value "index" readQuoted s.index
  blob : FieldDecodes fieldNames value "blob" readBlob s.blob
  commitment :
    FieldDecodes fieldNames value "kzg_commitment" (readVector commitmentSize) s.commitment
  proof : FieldDecodes fieldNames value "kzg_proof" (readVector commitmentSize) s.proof
  header :
    FieldDecodes fieldNames value "signed_block_header" SignedBlockHeader.record.read s.header
  inclusion :
    FieldDecodes fieldNames value "kzg_commitment_inclusion_proof" InclusionProof.read s.inclusion

theorem ofJson?_eq_some {s : Sidecar} : ofJson? value = some s ↔
    (field? fieldNames value "index".toList).bind quoted? = some s.index ∧
    (field? fieldNames value "blob".toList).bind blob? = some s.blob ∧
    (field? fieldNames value "kzg_commitment".toList).bind (vector? commitmentSize) =
      some s.commitment ∧
    (field? fieldNames value "kzg_proof".toList).bind (vector? commitmentSize) = some s.proof ∧
    (field? fieldNames value "signed_block_header".toList).bind SignedBlockHeader.ofJson? =
      some s.header ∧
    (field? fieldNames value "kzg_commitment_inclusion_proof".toList).bind InclusionProof.ofJson? =
      some s.inclusion := by
  obtain ⟨index, blob, commitment, proof, header, inclusion⟩ := s
  rw [ofJson?]
  cases hfields : fields? fieldNames value with
  | none =>
    simp only [field?, hfields, Option.bind_eq_bind, Option.bind_none, reduceCtorEq, and_self]
  | some given =>
    simp only [field?, hfields, Option.pure_def, Option.bind_eq_bind, Option.bind_some,
      Option.bind_eq_some_iff, Option.some.injEq, mk.injEq, existsAndEq, and_true]

theorem decodes_iff_givenBy (hs : Spelled value) {s : Sidecar} :
    Decodes record.read value s ↔ s.GivenBy value := by
  have hnodup : fieldNames.Nodup := by decide
  have hpoint : ∀ v, Means (readVector commitmentSize) v (vector? commitmentSize v) :=
    means_vector (by decide)
  rw [decodes_iff (means_sidecar value) hs, ofJson?_eq_some, givenBy_iff,
    ← fieldDecodes_iff hnodup means_quoted hs, ← fieldDecodes_iff hnodup means_blob hs,
    ← fieldDecodes_iff hnodup hpoint hs, ← fieldDecodes_iff hnodup hpoint hs,
    ← fieldDecodes_iff hnodup SignedBlockHeader.means_signedBlockHeader hs,
    ← fieldDecodes_iff hnodup InclusionProof.means_inclusionProof hs]

end Sidecar

end BlobRetrieval
