import BlobRetrieval.Fetch.Format
import BlobRetrieval.Proofs.Sidecar.Json
import BlobRetrieval.Proofs.Ssz.SidecarList

/-!
# What is written is read back

A collection is read back from either of its JSON forms whatever its size, and from
its binary form as long as it is within the bound on binary lists. Up to that bound
the two formats carry the same collection.
-/

set_option autoImplicit false

namespace BlobRetrieval.Format

theorem decode_json_compact (c : List Sidecar) :
    Format.json.decode (Utf8.encode (sidecarsToJson c).compact) = .ok c := by
  rw [decode, decode_compact]
  rfl

theorem decode_json_encode (c : List Sidecar) :
    Format.json.decode (Format.json.encode c) = .ok c := by
  rw [decode, encode, decode_pretty]
  rfl

theorem decode_ssz_encode (c : List Sidecar) :
    Format.ssz.decode (Format.ssz.encode c) =
      if c.length ≤ maxSidecars then .ok c else .error (.ssz (.tooMany c.length)) := by
  rw [decode, encode, Ssz.decodeList_encodeList]
  split <;> rfl

theorem decode_json_eq_ok (body : Bytes) (c : List Sidecar) :
    Format.json.decode body = .ok c ↔ Json.decode envelope.read body = .ok c := by
  rw [decode]
  cases Json.decode envelope.read body <;> simp [Except.mapError]

theorem decode_ssz_eq_ok (body : Bytes) (c : List Sidecar) :
    Format.ssz.decode body = .ok c ↔ c.length ≤ maxSidecars ∧ body = Ssz.encodeList c := by
  rw [← Ssz.decodeList_eq_ok, decode]
  cases Ssz.decodeList body <;> simp [Except.mapError]

/-- Only one body is read as a collection in binary. -/
theorem encode_of_decode_ssz {body : Bytes} {c : List Sidecar}
    (h : Format.ssz.decode body = .ok c) : Format.ssz.encode c = body :=
  ((decode_ssz_eq_ok body c).mp h).2.symm

theorem decode_encode_of_decode {format : Format} {body : Bytes} {c : List Sidecar}
    (h : format.decode body = .ok c) : format.decode (format.encode c) = .ok c := by
  cases format with
  | json => exact decode_json_encode c
  | ssz => rw [encode_of_decode_ssz h, h]

theorem decode_written_forms (c : List Sidecar) :
    Format.json.decode (Utf8.encode (sidecarsToJson c).compact) = .ok c ∧
    Format.json.decode (Format.json.encode c) = .ok c ∧
    Format.ssz.decode (Format.ssz.encode c) =
      (if c.length ≤ maxSidecars then .ok c else .error (.ssz (.tooMany c.length))) ∧
    (Format.json.decode (Format.json.encode c) = Format.ssz.decode (Format.ssz.encode c) ↔
      c.length ≤ maxSidecars) := by
  refine ⟨decode_json_compact c, decode_json_encode c, decode_ssz_encode c, ?_⟩
  rw [decode_json_encode, decode_ssz_encode]
  constructor
  · intro h
    split at h
    · assumption
    · cases h
  · intro h
    rw [if_pos h]

end BlobRetrieval.Format
