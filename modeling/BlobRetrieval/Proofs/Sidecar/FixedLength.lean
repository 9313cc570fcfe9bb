import BlobRetrieval.Proofs.Json.Denoted
import BlobRetrieval.Proofs.Sidecar.Meaning

/-!
# Values of a known length

The fields of a known length are read from values that denote exactly as many bytes, and an
inclusion proof from exactly as many roots as it has branches. There is one exception: an array
may hold one element more than its bytes, where that element is none itself. A blob, which is
measured after it has been read, and an inclusion proof have no such exception.
-/

set_option autoImplicit false

namespace BlobRetrieval

open Json

variable {value : Json} {body : Bytes}

namespace InclusionProof

theorem ofBranches?_eq_some {branches : List Root} {p : InclusionProof} :
    ofBranches? branches = some p ↔ branches = p.branches := by
  constructor
  · intro h
    obtain ⟨_, hp⟩ := Option.dite_none_right_eq_some.mp h
    rw [← Option.some.inj hp]
  · rintro rfl
    exact dif_pos p.length_eq

theorem ofJson?_eq_some {p : InclusionProof} : ofJson? value = some p ↔
    ∃ items, value = .array items ∧ items.mapM (vector? rootSize) = some p.branches := by
  simp only [ofJson?, Option.bind_eq_some_iff, ofBranches?_eq_some, items?_eq_some, exists_eq_right]

/-- Every branch is read as a root by itself, and none is left over. -/
theorem decode_iff_branches (h : Document value body) {p : InclusionProof} :
    decode InclusionProof.read body = .ok p ↔
      ∃ items, value = .array items ∧ items.length = proofDepth ∧
        List.Forall₂ (Decodes (readVector rootSize)) items p.branches := by
  rw [decode_eq_ok_iff (means_inclusionProof value) h,
    decodes_iff (means_inclusionProof value) h.spelled, ofJson?_eq_some]
  apply exists_congr
  intro items
  apply and_congr_right
  rintro rfl
  rw [← forall₂_decodes_iff (means_vector (by decide)) (spelled_items h.spelled),
    iff_and_self]
  intro hall
  rw [hall.length_eq, p.length_eq]

end InclusionProof

theorem decode_blob_iff (h : Document value body) {blob : Blob} :
    decode readBlob body = .ok blob ↔ Denotes blob.bytes value := by
  rw [decode_eq_ok_iff (means_blob value) h, decodes_iff (means_blob value) h.spelled,
    blob?_eq_some h.spelled]

theorem decode_vector_iff (h : Document value body) {n : Nat} (hn : 0 < n) {v : ByteVector n} :
    decode (readVector n) body = .ok v ↔ Denotes v.bytes value ∨ Overfull v.bytes value := by
  rw [decode_eq_ok_iff (means_vector hn value) h, decodes_iff (means_vector hn value) h.spelled,
    vector?_eq_some h.spelled]

/-- A blob is read just if the value denotes that many bytes, an inclusion proof just if it is an
array of that many roots, and any other field of a known length just if the value denotes that
many bytes or is an array of them that is overfull. No value that denotes bytes of another
length is read. -/
theorem decode_fixed_length (h : Document value body) :
    (∀ blob, decode readBlob body = .ok blob ↔ Denotes blob.bytes value) ∧
    (∀ p : InclusionProof, decode InclusionProof.read body = .ok p ↔
      ∃ items, value = .array items ∧ items.length = proofDepth ∧
        List.Forall₂ (Decodes (readVector rootSize)) items p.branches) ∧
    ∀ n, 0 < n →
      (∀ v : ByteVector n, decode (readVector n) body = .ok v ↔
        Denotes v.bytes value ∨ Overfull v.bytes value) ∧
      ((∀ v : ByteVector n, decode (readVector n) body = .ok v → Denotes v.bytes value) ↔
        ∀ v : ByteVector n, ¬Overfull v.bytes value) ∧
      ∀ bytes, Denotes bytes value → bytes.length ≠ n →
        ∀ v : ByteVector n, decode (readVector n) body ≠ .ok v := by
  refine ⟨fun _ => decode_blob_iff h, fun _ => InclusionProof.decode_iff_branches h, ?_⟩
  intro n hn
  have hread (v : ByteVector n) : decode (readVector n) body = .ok v ↔
      Denotes v.bytes value ∨ Overfull v.bytes value := decode_vector_iff h hn
  refine ⟨hread, ⟨?_, ?_⟩, ?_⟩
  · intro hdenotes v hover
    exact hover.not_denotes v.bytes (hdenotes v ((hread v).mpr (.inr hover)))
  · intro hover v hv
    exact ((hread v).mp hv).resolve_right (hover v)
  · intro bytes hdenotes hlength v hv
    rcases (hread v).mp hv with hvalue | hover
    · apply hlength
      rw [hdenotes.unique h.spelled hvalue, v.length_eq]
    · exact hover.not_denotes bytes hdenotes

/-- One number too many. -/
theorem decode_fixed_length_surplus_octet :
    let value : Json := .array ((List.replicate (rootSize + 1) 7).map ofOctet)
    Document value (Utf8.encode value.compact) ∧
      ∀ v : Root, decode (readVector rootSize) (Utf8.encode value.compact) ≠ .ok v := by
  intro value
  have hitems : ∀ item ∈ (List.replicate (rootSize + 1) 7).map ofOctet, Printable item :=
    List.forall_mem_map.mpr fun b _ => printable_ofOctet b
  have hdocument : Document value (Utf8.encode value.compact) :=
    document_spelled (spells_compact (.array _ hitems))
  have hread := (decode_fixed_length hdocument).2.2 rootSize (by decide)
  exact ⟨hdocument, hread.2.2 _ .octets (by simp)⟩

/-- The value `null` behind the bytes of a root goes unnoticed, although the array denotes no
bytes then. -/
theorem decode_root_surplus_null :
    let value : Json := .array ((List.replicate rootSize 7).map ofOctet ++ [.null])
    Document value (Utf8.encode value.compact) ∧
      decode (readVector rootSize) (Utf8.encode value.compact) = .ok (.fill rootSize 7) ∧
      ∀ bytes, ¬Denotes bytes value := by
  intro value
  have hitems : ∀ item ∈ (List.replicate rootSize 7).map ofOctet ++ [.null], Printable item := by
    rw [List.forall_mem_append, List.forall_mem_singleton]
    exact ⟨List.forall_mem_map.mpr fun b _ => printable_ofOctet b, .null⟩
  have hdocument : Document value (Utf8.encode value.compact) :=
    document_spelled (spells_compact (.array _ hitems))
  have hover : Overfull (ByteVector.fill rootSize 7).bytes value := .surplus _ .null .octets rfl
  exact ⟨hdocument, (decode_vector_iff hdocument (by decide)).mpr (.inr hover),
    hover.not_denotes⟩

end BlobRetrieval
