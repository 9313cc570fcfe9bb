import BlobRetrieval.Proofs.Json.Edits
import BlobRetrieval.Proofs.Sidecar.Meaning

/-!
# Edits of a collection

What may be done to the envelope around a collection, to a sidecar in it and to the parts of a
sidecar, without changing which collection it is. If it is none, it stays none.
-/

set_option autoImplicit false

namespace BlobRetrieval

open Json

namespace BlockHeader

def edits : List (List Char × (Json → Json → Prop)) := [
  ("slot".toList, IntegerEdit),
  ("proposer_index".toList, IntegerEdit),
  ("parent_root".toList, BytesEdit),
  ("state_root".toList, BytesEdit),
  ("body_root".toList, BytesEdit)]

def Edit : Json → Json → Prop :=
  RecordEdit edits

theorem keeps_ofJson : Keeps Edit ofJson? := by
  have hnodup : (edits.map Prod.fst).Nodup := by
    show fieldNames.Nodup
    decide
  refine keeps_record hnodup fun given other hgiven => ?_
  simp only [edits, List.forall_mem_cons] at hgiven
  obtain ⟨hslot, hproposer, hparent, hstate, hbody, -⟩ := hgiven
  rw [hslot.bind keeps_quoted, hproposer.bind keeps_quoted,
    hparent.bind (keeps_vector _), hstate.bind (keeps_vector _),
    hbody.bind (keeps_vector _)]

end BlockHeader

namespace SignedBlockHeader

def edits : List (List Char × (Json → Json → Prop)) := [
  ("message".toList, BlockHeader.Edit),
  ("signature".toList, BytesEdit)]

def Edit : Json → Json → Prop :=
  RecordEdit edits

theorem keeps_ofJson : Keeps Edit ofJson? := by
  have hnodup : (edits.map Prod.fst).Nodup := by
    show fieldNames.Nodup
    decide
  refine keeps_record hnodup fun given other hgiven => ?_
  simp only [edits, List.forall_mem_cons] at hgiven
  obtain ⟨hmessage, hsignature, -⟩ := hgiven
  rw [hmessage.bind BlockHeader.keeps_ofJson,
    hsignature.bind (keeps_vector _)]

end SignedBlockHeader

namespace InclusionProof

def Edit : Json → Json → Prop :=
  ItemEdit BytesEdit

theorem keeps_ofJson : Keeps Edit ofJson? := by
  intro value other h
  have hbranches := keeps_items (keeps_vector rootSize) value other h
  beta_reduce at hbranches
  rw [ofJson?, ofJson?, hbranches]

end InclusionProof

namespace Sidecar

def edits : List (List Char × (Json → Json → Prop)) := [
  ("index".toList, IntegerEdit),
  ("blob".toList, BytesEdit),
  ("kzg_commitment".toList, BytesEdit),
  ("kzg_proof".toList, BytesEdit),
  ("signed_block_header".toList, SignedBlockHeader.Edit),
  ("kzg_commitment_inclusion_proof".toList, InclusionProof.Edit)]

def Edit : Json → Json → Prop :=
  RecordEdit edits

theorem keeps_ofJson : Keeps Edit ofJson? := by
  have hnodup : (edits.map Prod.fst).Nodup := by
    show fieldNames.Nodup
    decide
  refine keeps_record hnodup fun given other hgiven => ?_
  simp only [edits, List.forall_mem_cons] at hgiven
  obtain ⟨hindex, hblob, hcommitment, hproof, hheader, hinclusion, -⟩ := hgiven
  rw [hindex.bind keeps_quoted, hblob.bind keeps_blob,
    hcommitment.bind (keeps_vector _), hproof.bind (keeps_vector _),
    hheader.bind SignedBlockHeader.keeps_ofJson,
    hinclusion.bind InclusionProof.keeps_ofJson]

end Sidecar

namespace Sidecars

def edits : List (List Char × (Json → Json → Prop)) := [
  ("data".toList, ItemEdit Sidecar.Edit)]

def Edit : Json → Json → Prop :=
  RecordEdit edits

theorem keeps_ofJson : Keeps Edit ofJson? := by
  have hnodup : (edits.map Prod.fst).Nodup := by
    show ["data".toList].Nodup
    decide
  refine keeps_record hnodup fun given other hgiven => ?_
  have hdata := hgiven _ List.mem_cons_self
  exact hdata.bind (keeps_items Sidecar.keeps_ofJson)

end Sidecars

end BlobRetrieval
