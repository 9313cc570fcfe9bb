import BlobRetrieval.Proofs.Json.Denoted
import BlobRetrieval.Proofs.Ssz.FixedSize

/-!
# Ways into a blob

Bytes become a blob as they are, by binary reading, and by JSON reading of a value that denotes
them. All three ways take the bytes of one length alone and make the same blob of them, and all
three say of other bytes how many there are. What is written of a blob is the bytes it was made of.
-/

set_option autoImplicit false

namespace BlobRetrieval

open Json

variable {bytes : Bytes}

namespace Blob

theorem ofBytes_bytes (blob : Blob) : ofBytes blob.bytes = .ok blob :=
  dif_pos blob.length_eq

theorem ofBytes_of_length_ne (h : bytes.length ≠ blobSize) :
    ofBytes bytes = .error ⟨"blob", blobSize, bytes.length⟩ :=
  dif_neg h

end Blob

def hexText (bytes : Bytes) : Bytes :=
  Utf8.encode ('"' :: '0' :: 'x' :: (Hex.encode bytes ++ ['"']))

/-- Digits and the mark in front of them need no escapes. -/
theorem encode_compact_ofBytes (bytes : Bytes) :
    Utf8.encode (Json.ofBytes bytes).compact = hexText bytes := by
  have hescaped : ∀ c ∈ Hex.marked bytes, escaped c = [c] := by
    intro c hc
    rcases List.mem_cons.mp hc with rfl | hc
    · rfl
    · rcases List.mem_cons.mp hc with rfl | hc
      · rfl
      · exact Hex.of_mem_encode (P := fun c => escaped c = [c]) (by decide) hc
  rw [Json.ofBytes, compact, quoted_plain hescaped]
  rfl

theorem document_hexText (bytes : Bytes) : Document (Json.ofBytes bytes) (hexText bytes) := by
  rw [← encode_compact_ofBytes]
  exact document_spelled (spells_compact (.string _))

/-- However bytes are written, they are read first and measured then. -/
theorem decode_blob_denoted {value : Json} {body : Bytes} (h : Document value body)
    (hd : Denotes bytes value) :
    decode readBlob body = (Blob.ofBytes bytes).mapError fun e => ⟨.blobLength e, none⟩ := by
  obtain ⟨before, text, after, hb, ht, ha⟩ := h
  have hread := means_bytes value before text after hb ht (apart_of_blanks ha)
  rw [(bytes?_eq_some ⟨text, ht⟩).mpr hd, gives_some] at hread
  cases hmade : Blob.ofBytes bytes with
  | ok blob =>
    have hblob : Reader.on readBlob (before ++ (text ++ after)) = (.ok blob, after) := by
      rw [readBlob, Reader.on_bind_ok hread, hmade]
      rfl
    simp only [decode]
    rw [Reader.on_bind_ok hblob, Reader.on_bind_ok (on_peekToken_end ha)]
    rfl
  | error error =>
    have hblob : Reader.on readBlob (before ++ (text ++ after)) =
        (.error ⟨.blobLength error, none⟩, after) := by
      rw [readBlob, Reader.on_bind_ok hread, hmade]
      rfl
    simp only [decode]
    rw [Reader.on_bind, hblob]
    rfl

theorem decode_hexText (bytes : Bytes) :
    decode readBlob (hexText bytes) =
      (Blob.ofBytes bytes).mapError fun e => ⟨.blobLength e, none⟩ :=
  decode_blob_denoted (document_hexText bytes) (.hex _ (Hex.form_marked bytes))

structure Blob.Sound (blob : Blob) : Prop where
  length : blob.bytes.length = 131072
  brief : ∃ head tail, blob.bytes = head ++ tail ∧ head.length = 8 ∧
    blob.brief.toList = "Blob(0x".toList ++ (Hex.encode head ++ "..; 131072 bytes)".toList)
  announced : ∀ buffer, (Ssz.append Ssz.blobFields buffer blob).length =
    buffer.length + (Ssz.vector blobSize).bytesLength blob
  appended : ∀ buffer, Ssz.append Ssz.blobFields buffer blob = buffer ++ blob.bytes
  binary : (Ssz.vector blobSize).write blob = blob.bytes
  json : Utf8.encode (Json.ofBytes blob.bytes).compact = hexText blob.bytes

theorem Blob.brief_eq (blob : Blob) :
    blob.brief.toList =
      "Blob(0x".toList ++ (Hex.encode (blob.bytes.take 8) ++ "..; 131072 bytes)".toList) := by
  have hlength : (toString blob.bytes.length).toList = "131072".toList := by
    rw [blob.length_eq, Decimal.toList_toString]
    decide
  have hmark : (String.ofList (Hex.marked (blob.bytes.take 8))).toList =
      "0x".toList ++ Hex.encode (blob.bytes.take 8) := String.toList_ofList
  unfold Blob.brief
  simp only [String.toList_append, hlength, hmark, List.append_assoc]
  rfl

theorem Blob.sound (blob : Blob) : blob.Sound where
  length := blob.length_eq
  brief := by
    refine ⟨blob.bytes.take 8, blob.bytes.drop 8, (List.take_append_drop 8 _).symm, ?_,
      blob.brief_eq⟩
    rw [List.length_take, blob.length_eq]
    decide
  announced buffer := by
    rw [Ssz.blob_fixedSize.appended, List.length_append, Ssz.Layout.length_write]
    rfl
  appended buffer := Ssz.blob_fixedSize.appended buffer blob
  binary := rfl
  json := encode_compact_ofBytes blob.bytes

/-- Bytes of the right length are made the same blob in each of the three ways, and all other
bytes are refused in each of them, with their length. Every blob has that length and shows its
first bytes; it is written as its bytes in binary and as their digits in JSON. -/
theorem blob_entrances (bytes : Bytes) :
    (bytes.length = 131072 ∧ (∃ blob : Blob, blob.bytes = bytes ∧ Blob.ofBytes bytes = .ok blob ∧
        (Ssz.vector blobSize).read bytes = .ok blob ∧
        decode readBlob (hexText bytes) = .ok blob) ∨
      bytes.length ≠ 131072 ∧ Blob.ofBytes bytes = .error ⟨"blob", 131072, bytes.length⟩ ∧
        (Ssz.vector blobSize).read bytes = .error (.wrongLength bytes.length 131072) ∧
        decode readBlob (hexText bytes) =
          .error ⟨.blobLength ⟨"blob", 131072, bytes.length⟩, none⟩) ∧
    ∀ blob : Blob, blob.Sound := by
  refine ⟨?_, Blob.sound⟩
  by_cases h : bytes.length = 131072
  · obtain ⟨blob, rfl⟩ : ∃ blob : Blob, blob.bytes = bytes := ⟨⟨bytes, h⟩, rfl⟩
    refine .inl ⟨h, blob, rfl, blob.ofBytes_bytes, ?_, ?_⟩
    · exact (Ssz.blob_fixedSize.inverse _ blob).mpr rfl
    · rw [decode_hexText, blob.ofBytes_bytes]
      rfl
  · refine .inr ⟨h, Blob.ofBytes_of_length_ne h, Ssz.blob_fixedSize.refused bytes h, ?_⟩
    rw [decode_hexText, Blob.ofBytes_of_length_ne h]
    rfl

end BlobRetrieval
