import Mathlib.Logic.Relation
import BlobRetrieval.Proofs.Fetch.Format
import BlobRetrieval.Proofs.Sidecar.Edits
import BlobRetrieval.Sidecar.Sample

/-!
# Bodies of the same collection

A body may be spelled and edited in many ways, at any place and any number of times: as long as
no edit touches what a field is, either all of the bodies hold the same collection, or none
holds any.
-/

set_option autoImplicit false

namespace BlobRetrieval

open Json

inductive BodyEdit : Bytes → Bytes → Prop
  | spelling (value : Json) (body other : Bytes) : Document value body → Document value other →
      BodyEdit body other
  | value (value changed : Json) (body other : Bytes) : Document value body →
      Document changed other → Sidecars.Edit value changed → BodyEdit body other

/-- Every text of a value is read as what the value is, and as nothing if it is no collection. -/
theorem decode_json_document {value : Json} {body : Bytes} (h : Document value body) :
    (Format.json.decode body).toOption = Sidecars.ofJson? value := by
  rw [← decode_means (Sidecars.means_envelope value) h, Format.decode]
  cases decode envelope.read body <;> rfl

theorem BodyEdit.decode {body other : Bytes} (h : BodyEdit body other) :
    (Format.json.decode body).toOption = (Format.json.decode other).toOption := by
  cases h with
  | spelling value _ _ hbody hother =>
    rw [decode_json_document hbody, decode_json_document hother]
  | value value changed _ _ hbody hother hedit =>
    rw [decode_json_document hbody, decode_json_document hother,
      Sidecars.keeps_ofJson value changed hedit]

/-- Edits that touch no field change neither whether a body is read nor what it is read as. -/
theorem decode_json_edited {body other : Bytes} (h : Relation.ReflTransGen BodyEdit body other)
    (c : List Sidecar) : Format.json.decode body = .ok c ↔ Format.json.decode other = .ok c := by
  have hsame : (Format.json.decode body).toOption = (Format.json.decode other).toOption := by
    induction h with
    | refl => rfl
    | tail _ hlast ih => exact ih.trans hlast.decode
  have hok : ∀ decoded : Except PayloadError (List Sidecar),
      decoded = .ok c ↔ decoded.toOption = some c := by
    intro decoded
    cases decoded <;> simp [Except.toOption]
  rw [hok, hok, hsame]

/-- The index of a sidecar moves behind the other members and loses its quotes, the envelope
gets a member of another name, and all blanks go. -/
theorem decode_json_edited_sample :
    let s := Sample.sidecar 3 7
    let others : List (List Char × Json) := [
      ("blob".toList, .ofBytes s.blob.bytes),
      ("kzg_commitment".toList, .ofBytes s.commitment.bytes),
      ("kzg_proof".toList, .ofBytes s.proof.bytes),
      ("signed_block_header".toList, s.header.toJson),
      ("kzg_commitment_inclusion_proof".toList, s.inclusion.toJson)]
    let changed : Json := .object [
      ("finalized".toList, .array [.null, .object [("data".toList, .array [])]]),
      ("data".toList, .array [.object (others ++ [("index".toList, .number ['3'])])])]
    Relation.ReflTransGen BodyEdit (Format.json.encode [s]) (Utf8.encode changed.compact) ∧
      Format.json.decode (Utf8.encode changed.compact) = .ok [s] := by
  intro s others changed
  have hdocument {value : Json} (h : Printable value) :
      Document value (Utf8.encode value.compact) :=
    document_spelled (spells_compact h)
  have hwritten : Document (sidecarsToJson [s]) (Format.json.encode [s]) :=
    document_spelled (spells_indented (collectionForm_toJson [s]).printable 0)
  have henvelope {item : Json} (h : Printable item) :
      Printable (.object [("data".toList, .array [item])]) :=
    printable_cons (.array _ (List.forall_mem_singleton.mpr h)) printable_nil
  have hothers : Printable (.object others) := by
    apply printable_cons (bytesForm_ofBytes s.blob.bytes).printable
    apply printable_cons (bytesForm_ofBytes s.commitment.bytes).printable
    apply printable_cons (bytesForm_ofBytes s.proof.bytes).printable
    apply printable_cons s.header.form_toJson.printable
    apply printable_cons s.inclusion.form_toJson.printable
    exact printable_nil
  have hmember {index : Json} (h : Printable index) :
      Printable (.object (others ++ [("index".toList, index)])) :=
    printable_of_perm List.perm_append_comm (printable_cons h hothers)
  have hquoted := henvelope (hmember (integerForm_ofQuoted s.index).printable)
  have hbare := henvelope (hmember (.number ['3'] (numberText_of_integer (integerText_digits 3))))
  have hfinalized : Printable (.array [.null, .object [("data".toList, .array [])]]) := by
    apply Printable.array
    simp only [List.forall_mem_cons]
    exact ⟨.null, printable_cons (.array [] (by simp)) printable_nil, by simp⟩
  have hchanged : Printable changed := printable_cons hfinalized hbare
  have hedit {item other : Json} (h : Sidecar.Edit item other) :
      Sidecars.Edit (.object [("data".toList, .array [item])])
        (.object [("data".toList, .array [other])]) :=
    .member [] [] _ _ _ _ List.mem_cons_self (.item [] [] item other h)
  have hchain : Relation.ReflTransGen BodyEdit (Format.json.encode [s])
      (Utf8.encode changed.compact) := by
    refine .head (.value _ _ _ _ hwritten (hdocument hquoted) (hedit ?_)) ?_
    · exact .permute _ _ (List.perm_append_singleton _ others).symm
    refine .head (.value _ _ _ _ (hdocument hquoted) (hdocument hbare) (hedit ?_)) ?_
    · refine .member others [] _ _ _ IntegerEdit List.mem_cons_self ?_
      exact .bare 3 _ (Decimal.form_digits 3)
    refine .single (.value _ _ _ _ (hdocument hbare) (hdocument hchanged) ?_)
    exact .add [] _ _ _ (by decide)
  exact ⟨hchain, (decode_json_edited hchain [s]).mp (Format.decode_json_encode [s])⟩

end BlobRetrieval
