import BlobRetrieval.Proofs.Json.Forms
import BlobRetrieval.Proofs.Sidecar.Meaning

/-!
# Ways to write sidecars

The values that stand for a sidecar and for its parts: members come in any order, and each
number and each byte value in any of its forms. Every one of them is the sidecar.
-/

set_option autoImplicit false

namespace BlobRetrieval

open Json

namespace BlockHeader

inductive Form (h : BlockHeader) : Json → Prop
  | members (slot proposer parent state body : Json) (members : List (List Char × Json)) :
      IntegerForm h.slot slot → IntegerForm h.proposerIndex proposer →
      BytesForm h.parentRoot.bytes parent → BytesForm h.stateRoot.bytes state →
      BytesForm h.bodyRoot.bytes body →
      members.Perm [("slot".toList, slot), ("proposer_index".toList, proposer),
        ("parent_root".toList, parent), ("state_root".toList, state),
        ("body_root".toList, body)] →
      Form h (.object members)

theorem Form.ofJson?_eq {h : BlockHeader} {value : Json} (hf : h.Form value) :
    BlockHeader.ofJson? value = some h := by
  obtain ⟨slot, proposer, parent, state, body, members, hs, hp, hparent, hstate, hbody, hperm⟩ := hf
  have hgiven := sole_listed hperm (show fieldNames.Nodup by decide)
  simp only [List.forall_mem_cons] at hgiven
  obtain ⟨hslot, hproposer, hparentRoot, hstateRoot, hbodyRoot, -⟩ := hgiven
  simp only [BlockHeader.ofJson?, fields?, Option.bind_eq_bind, Option.bind_some, hslot,
    hproposer, hparentRoot, hstateRoot, hbodyRoot, hs.quoted?_eq, hp.quoted?_eq,
    hparent.vector?_eq, hstate.vector?_eq, hbody.vector?_eq]
  rfl

end BlockHeader

namespace SignedBlockHeader

inductive Form (h : SignedBlockHeader) : Json → Prop
  | members (message signature : Json) (members : List (List Char × Json)) :
      h.message.Form message → BytesForm h.signature.bytes signature →
      members.Perm [("message".toList, message), ("signature".toList, signature)] →
      Form h (.object members)

theorem Form.ofJson?_eq {h : SignedBlockHeader} {value : Json} (hf : h.Form value) :
    SignedBlockHeader.ofJson? value = some h := by
  obtain ⟨message, signature, members, hm, hs, hperm⟩ := hf
  have hgiven := sole_listed hperm (show fieldNames.Nodup by decide)
  simp only [List.forall_mem_cons] at hgiven
  obtain ⟨hmessage, hsignature, -⟩ := hgiven
  simp only [SignedBlockHeader.ofJson?, fields?, Option.bind_eq_bind, Option.bind_some, hmessage,
    hsignature, hm.ofJson?_eq, hs.vector?_eq]
  rfl

end SignedBlockHeader

namespace InclusionProof

inductive Form (p : InclusionProof) : Json → Prop
  | items (items : List Json) :
      List.Forall₂ (fun branch => BytesForm branch.bytes) p.branches items →
      Form p (.array items)

theorem Form.ofJson?_eq {p : InclusionProof} {value : Json} (hf : p.Form value) :
    InclusionProof.ofJson? value = some p := by
  obtain ⟨items, hitems⟩ := hf
  have hbranches : items.mapM (vector? rootSize) = some p.branches :=
    mapM_eq_some.mpr (hitems.flip.imp fun _ _ h => h.vector?_eq)
  rw [InclusionProof.ofJson?, items?, Option.bind_some, hbranches]
  exact dif_pos p.length_eq

end InclusionProof

namespace Sidecar

inductive Form (s : Sidecar) : Json → Prop
  | members (index blob commitment proof header inclusion : Json)
      (members : List (List Char × Json)) :
      IntegerForm s.index index → BytesForm s.blob.bytes blob →
      BytesForm s.commitment.bytes commitment → BytesForm s.proof.bytes proof →
      s.header.Form header → s.inclusion.Form inclusion →
      members.Perm [("index".toList, index), ("blob".toList, blob),
        ("kzg_commitment".toList, commitment), ("kzg_proof".toList, proof),
        ("signed_block_header".toList, header),
        ("kzg_commitment_inclusion_proof".toList, inclusion)] →
      Form s (.object members)

theorem Form.ofJson?_eq {s : Sidecar} {value : Json} (hf : s.Form value) :
    Sidecar.ofJson? value = some s := by
  obtain ⟨index, blob, commitment, proof, header, inclusion, members, hi, hb, hc, hp, hh, hk,
    hperm⟩ := hf
  have hgiven := sole_listed hperm (show fieldNames.Nodup by decide)
  simp only [List.forall_mem_cons] at hgiven
  obtain ⟨hindex, hblob, hcommitment, hproof, hheader, hinclusion, -⟩ := hgiven
  simp only [Sidecar.ofJson?, fields?, Option.bind_eq_bind, Option.bind_some, hindex, hblob,
    hcommitment, hproof, hheader, hinclusion, hi.quoted?_eq, hb.blob?_eq, hc.vector?_eq,
    hp.vector?_eq, hh.ofJson?_eq, hk.ofJson?_eq]
  rfl

end Sidecar

inductive CollectionForm (c : List Sidecar) : Json → Prop
  | data (items : List Json) : List.Forall₂ Sidecar.Form c items →
      CollectionForm c (.object [("data".toList, .array items)])

theorem CollectionForm.ofJson?_eq {c : List Sidecar} {value : Json}
    (hf : CollectionForm c value) : Sidecars.ofJson? value = some c := by
  obtain ⟨items, hitems⟩ := hf
  have hsidecars : items.mapM Sidecar.ofJson? = some c :=
    mapM_eq_some.mpr (hitems.flip.imp fun _ _ h => h.ofJson?_eq)
  have hnames : ([("data".toList, Json.array items)].map Prod.fst).Nodup :=
    List.nodup_singleton "data".toList
  have hdata := sole_of_mem hnames List.mem_cons_self
  simp only [Sidecars.ofJson?, fields?, Option.bind_eq_bind, Option.bind_some, hdata, items?,
    hsidecars]

theorem CollectionForm.reads {c : List Sidecar} {value : Json} (hf : CollectionForm c value) :
    Reads envelope.read value c := by
  rw [← means_some, ← hf.ofJson?_eq]
  exact Sidecars.means_envelope value

end BlobRetrieval
