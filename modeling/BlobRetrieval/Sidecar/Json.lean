import BlobRetrieval.Sidecar.Basic
import BlobRetrieval.Json.Value

/-!
# Sidecars as JSON values

Names and order of the members. Numbers are quoted and byte values are hexadecimal.
-/

set_option autoImplicit false

namespace BlobRetrieval

def BlockHeader.toJson (h : BlockHeader) : Json :=
  .object [
    ("slot".toList, .ofQuoted h.slot),
    ("proposer_index".toList, .ofQuoted h.proposerIndex),
    ("parent_root".toList, .ofBytes h.parentRoot.bytes),
    ("state_root".toList, .ofBytes h.stateRoot.bytes),
    ("body_root".toList, .ofBytes h.bodyRoot.bytes)]

def SignedBlockHeader.toJson (h : SignedBlockHeader) : Json :=
  .object [
    ("message".toList, h.message.toJson),
    ("signature".toList, .ofBytes h.signature.bytes)]

def InclusionProof.toJson (p : InclusionProof) : Json :=
  .array (p.branches.map fun b => .ofBytes b.bytes)

def Sidecar.toJson (s : Sidecar) : Json :=
  .object [
    ("index".toList, .ofQuoted s.index),
    ("blob".toList, .ofBytes s.blob.bytes),
    ("kzg_commitment".toList, .ofBytes s.commitment.bytes),
    ("kzg_proof".toList, .ofBytes s.proof.bytes),
    ("signed_block_header".toList, s.header.toJson),
    ("kzg_commitment_inclusion_proof".toList, s.inclusion.toJson)]

def sidecarsToJson (sidecars : List Sidecar) : Json :=
  .object [("data".toList, .array (sidecars.map Sidecar.toJson))]

end BlobRetrieval
