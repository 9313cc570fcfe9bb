import BlobRetrieval.Proofs.Sidecar.Forms
import BlobRetrieval.Sidecar.Json

/-!
# Sidecars through JSON

What a sidecar and its parts are written as is one of their forms, and so is the envelope
around a collection of any length. All forms are printable, so both written forms of a
collection are read back to it.
-/

set_option autoImplicit false

namespace BlobRetrieval

open Json

theorem integerForm_ofQuoted (n : UInt64) : IntegerForm n (.ofQuoted n) :=
  .quoted _ (Decimal.form_digits n.toNat)

theorem bytesForm_ofBytes (bytes : Bytes) : BytesForm bytes (.ofBytes bytes) :=
  .hex _ (Hex.form_marked bytes)

theorem BlockHeader.form_toJson (h : BlockHeader) : h.Form h.toJson :=
  .members _ _ _ _ _ _ (integerForm_ofQuoted h.slot) (integerForm_ofQuoted h.proposerIndex)
    (bytesForm_ofBytes h.parentRoot.bytes) (bytesForm_ofBytes h.stateRoot.bytes)
    (bytesForm_ofBytes h.bodyRoot.bytes) (.refl _)

theorem SignedBlockHeader.form_toJson (h : SignedBlockHeader) : h.Form h.toJson :=
  .members _ _ _ h.message.form_toJson (bytesForm_ofBytes h.signature.bytes) (.refl _)

theorem InclusionProof.form_toJson (p : InclusionProof) : p.Form p.toJson := by
  apply Form.items
  rw [List.forall₂_map_right_iff, List.forall₂_same]
  exact fun b _ => bytesForm_ofBytes b.bytes

theorem Sidecar.form_toJson (s : Sidecar) : s.Form s.toJson :=
  .members _ _ _ _ _ _ _ (integerForm_ofQuoted s.index) (bytesForm_ofBytes s.blob.bytes)
    (bytesForm_ofBytes s.commitment.bytes) (bytesForm_ofBytes s.proof.bytes)
    s.header.form_toJson s.inclusion.form_toJson (.refl _)

theorem collectionForm_toJson (c : List Sidecar) : CollectionForm c (sidecarsToJson c) := by
  apply CollectionForm.data
  rw [List.forall₂_map_right_iff, List.forall₂_same]
  exact fun s _ => s.form_toJson

theorem BlockHeader.Form.printable {h : BlockHeader} {value : Json} (hf : h.Form value) :
    Printable value := by
  obtain ⟨slot, proposer, parent, state, body, members, hs, hp, hparent, hstate, hbody, hperm⟩ := hf
  apply printable_of_perm hperm
  apply printable_cons hs.printable
  apply printable_cons hp.printable
  apply printable_cons hparent.printable
  apply printable_cons hstate.printable
  apply printable_cons hbody.printable
  exact printable_nil

theorem SignedBlockHeader.Form.printable {h : SignedBlockHeader} {value : Json}
    (hf : h.Form value) : Printable value := by
  obtain ⟨message, signature, members, hm, hs, hperm⟩ := hf
  apply printable_of_perm hperm
  apply printable_cons hm.printable
  apply printable_cons hs.printable
  exact printable_nil

theorem InclusionProof.Form.printable {p : InclusionProof} {value : Json} (hf : p.Form value) :
    Printable value := by
  obtain ⟨items, hitems⟩ := hf
  exact .array _ (printable_of_forms hitems fun _ _ h => h.printable)

theorem Sidecar.Form.printable {s : Sidecar} {value : Json} (hf : s.Form value) :
    Printable value := by
  obtain ⟨index, blob, commitment, proof, header, inclusion, members, hi, hb, hc, hp, hh, hk,
    hperm⟩ := hf
  apply printable_of_perm hperm
  apply printable_cons hi.printable
  apply printable_cons hb.printable
  apply printable_cons hc.printable
  apply printable_cons hp.printable
  apply printable_cons hh.printable
  apply printable_cons hk.printable
  exact printable_nil

theorem CollectionForm.printable {c : List Sidecar} {value : Json} (hf : CollectionForm c value) :
    Printable value := by
  obtain ⟨items, hitems⟩ := hf
  apply printable_cons (.array _ (printable_of_forms hitems fun _ _ h => h.printable))
  exact printable_nil

theorem decode_compact (c : List Sidecar) :
    decode envelope.read (Utf8.encode (sidecarsToJson c).compact) = .ok c :=
  decode_document (collectionForm_toJson c).reads
    (document_spelled (spells_compact (collectionForm_toJson c).printable))

theorem decode_pretty (c : List Sidecar) :
    decode envelope.read (Utf8.encode (sidecarsToJson c).pretty) = .ok c :=
  decode_document (collectionForm_toJson c).reads
    (document_spelled (spells_indented (collectionForm_toJson c).printable 0))

end BlobRetrieval
