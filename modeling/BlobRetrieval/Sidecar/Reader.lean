import BlobRetrieval.Json.ByteValue

/-!
# Reading sidecars from JSON

The records of a sidecar and of its parts, and the envelope that holds a collection
in its member `data`.
-/

set_option autoImplicit false

namespace BlobRetrieval

open Json

namespace BlockHeader

structure Draft where
  slot : Option UInt64 := none
  proposerIndex : Option UInt64 := none
  parentRoot : Option Root := none
  stateRoot : Option Root := none
  bodyRoot : Option Root := none

def Draft.finish (d : Draft) : Except Cause BlockHeader := do
  return {
    slot := ← present "slot" d.slot
    proposerIndex := ← present "proposer_index" d.proposerIndex
    parentRoot := ← present "parent_root" d.parentRoot
    stateRoot := ← present "state_root" d.stateRoot
    bodyRoot := ← present "body_root" d.bodyRoot }

def record : Record Draft BlockHeader where
  name := "BeaconBlockHeader"
  empty := {}
  finish := Draft.finish
  fields := [
    .required "slot" (·.slot) (fun d v => { d with slot := some v }) readQuoted,
    .required "proposer_index" (·.proposerIndex)
      (fun d v => { d with proposerIndex := some v }) readQuoted,
    .required "parent_root" (·.parentRoot)
      (fun d v => { d with parentRoot := some v }) (readVector _),
    .required "state_root" (·.stateRoot)
      (fun d v => { d with stateRoot := some v }) (readVector _),
    .required "body_root" (·.bodyRoot)
      (fun d v => { d with bodyRoot := some v }) (readVector _)]

end BlockHeader

namespace SignedBlockHeader

structure Draft where
  message : Option BlockHeader := none
  signature : Option Signature := none

def Draft.finish (d : Draft) : Except Cause SignedBlockHeader := do
  return {
    message := ← present "message" d.message
    signature := ← present "signature" d.signature }

def record : Record Draft SignedBlockHeader where
  name := "SignedBeaconBlockHeader"
  empty := {}
  finish := Draft.finish
  fields := [
    .required "message" (·.message)
      (fun d v => { d with message := some v }) BlockHeader.record.read,
    .required "signature" (·.signature)
      (fun d v => { d with signature := some v }) (readVector _)]

end SignedBlockHeader

def InclusionProof.read : Reader InclusionProof :=
  arrayOf (.items proofDepth) do
    let branches ← exactly (readVector rootSize) (.items proofDepth) proofDepth []
    if h : branches.length = proofDepth then return ⟨branches, h⟩
    else Reader.failUnplaced (.wrongLength branches.length (.items proofDepth))

namespace Sidecar

structure Draft where
  index : Option UInt64 := none
  blob : Option Blob := none
  commitment : Option Commitment := none
  proof : Option Commitment := none
  header : Option SignedBlockHeader := none
  inclusion : Option InclusionProof := none

def Draft.finish (d : Draft) : Except Cause Sidecar := do
  return {
    index := ← present "index" d.index
    blob := ← present "blob" d.blob
    commitment := ← present "kzg_commitment" d.commitment
    proof := ← present "kzg_proof" d.proof
    header := ← present "signed_block_header" d.header
    inclusion := ← present "kzg_commitment_inclusion_proof" d.inclusion }

def record : Record Draft Sidecar where
  name := "BlobSidecar"
  empty := {}
  finish := Draft.finish
  fields := [
    .required "index" (·.index) (fun d v => { d with index := some v }) readQuoted,
    .required "blob" (·.blob) (fun d v => { d with blob := some v }) readBlob,
    .required "kzg_commitment" (·.commitment)
      (fun d v => { d with commitment := some v }) (readVector _),
    .required "kzg_proof" (·.proof) (fun d v => { d with proof := some v }) (readVector _),
    .required "signed_block_header" (·.header)
      (fun d v => { d with header := some v }) SignedBlockHeader.record.read,
    .required "kzg_commitment_inclusion_proof" (·.inclusion)
      (fun d v => { d with inclusion := some v }) InclusionProof.read]

end Sidecar

def envelope : Record (Option (List Sidecar)) (List Sidecar) where
  name := "BlobSidecars"
  empty := none
  finish := present "data"
  fields := [.required "data" id (fun _ v => some v) (listOf Sidecar.record.read)]

def quotedRecord : Record (Option UInt64) UInt64 where
  name := "Quoted"
  empty := none
  finish := present "v"
  fields := [.required "v" id (fun _ v => some v) readQuoted]

end BlobRetrieval
