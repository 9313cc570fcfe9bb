import BlobRetrieval.Ssz.Basic
import BlobRetrieval.Sidecar.Basic

/-!
# Sidecars in binary

Layouts of the sidecar and its parts, and the list that holds any number of
sidecars: one offset, which is always four, and then the sidecars back to back.
-/

set_option autoImplicit false

namespace BlobRetrieval.Ssz

def inclusionSize : Nat := proofDepth * rootSize

def headerSize : Nat := 8 + 8 + rootSize + rootSize + rootSize

def signedHeaderSize : Nat := headerSize + signatureSize

def sidecarSize : Nat :=
  8 + blobSize + commitmentSize + commitmentSize + signedHeaderSize + inclusionSize

def inclusionProof : Layout InclusionProof inclusionSize where
  widths := [inclusionSize]
  sum_widths := rfl
  encode p := ⟨p.branches.flatMap (·.bytes), by
    rw [List.length_flatMap]
    have h : ∀ b ∈ p.branches, b.bytes.length = rootSize := fun b _ => b.length_eq
    rw [List.map_congr_left h, List.map_const', List.sum_replicate_nat, p.length_eq,
      inclusionSize]⟩
  decode v := ⟨List.ofFn fun d : Fin proofDepth =>
    v.slice (rootSize * d) rootSize (by
      have := d.isLt
      simp only [proofDepth, rootSize, inclusionSize] at *
      omega), by simp⟩

def header : Layout BlockHeader headerSize where
  widths := [8, 8, rootSize, rootSize, rootSize]
  sum_widths := rfl
  encode h := ⟨uint64.write h.slot ++ uint64.write h.proposerIndex ++ h.parentRoot.bytes
      ++ h.stateRoot.bytes ++ h.bodyRoot.bytes, by
    simp only [List.length_append, Layout.length_write, ByteVector.length_eq]
    rfl⟩
  decode v := {
    slot := uint64At v 0 (by decide)
    proposerIndex := uint64At v 8 (by decide)
    parentRoot := v.slice (8 + 8) rootSize (by decide)
    stateRoot := v.slice (8 + 8 + rootSize) rootSize (by decide)
    bodyRoot := v.slice (8 + 8 + rootSize + rootSize) rootSize (by decide) }

def signedHeader : Layout SignedBlockHeader signedHeaderSize where
  widths := [headerSize, signatureSize]
  sum_widths := rfl
  encode h := ⟨header.write h.message ++ h.signature.bytes, by
    simp only [List.length_append, Layout.length_write, ByteVector.length_eq]
    rfl⟩
  decode v := {
    message := header.decode (v.slice 0 headerSize (by decide))
    signature := v.slice headerSize signatureSize (by decide) }

def sidecar : Layout Sidecar sidecarSize where
  widths := [8, blobSize, commitmentSize, commitmentSize, signedHeaderSize, inclusionSize]
  sum_widths := rfl
  encode s := ⟨uint64.write s.index ++ s.blob.bytes ++ s.commitment.bytes ++ s.proof.bytes
      ++ signedHeader.write s.header ++ inclusionProof.write s.inclusion, by
    simp only [List.length_append, Layout.length_write, ByteVector.length_eq]
    rfl⟩
  decode v := {
    index := uint64At v 0 (by decide)
    blob := v.slice 8 blobSize (by decide)
    commitment := v.slice (8 + blobSize) commitmentSize (by decide)
    proof := v.slice (8 + blobSize + commitmentSize) commitmentSize (by decide)
    header := signedHeader.decode (v.slice (8 + blobSize + commitmentSize + commitmentSize)
      signedHeaderSize (by decide))
    inclusion := inclusionProof.decode (v.slice
      (8 + blobSize + commitmentSize + commitmentSize + signedHeaderSize) inclusionSize
      (by decide)) }

inductive ListError where
  | decode (error : DecodeError)
  | tooMany (count : Nat)
  deriving DecidableEq

def ListError.message : ListError → String
  | .decode error => "invalid ssz encoding: " ++ error.message
  | .tooMany count =>
    "sidecar list holds " ++ toString count ++ " entries, limit is " ++ toString maxSidecars

def checkCount (count : Nat) : Except ListError Unit :=
  if maxSidecars < count then .error (.tooMany count) else .ok ()

def records : Nat → Bytes → Except DecodeError (List Sidecar)
  | 0, _ => .ok []
  | count + 1, bytes =>
    match sidecar.read (bytes.take sidecarSize) with
    | .error e => .error e
    | .ok s =>
      match records count (bytes.drop sidecarSize) with
      | .error e => .error e
      | .ok rest => .ok (s :: rest)

def body (bytes : Bytes) : Except DecodeError (List Sidecar) :=
  records ((bytes.length + sidecarSize - 1) / sidecarSize) bytes

def leadingOffset (bytes : Bytes) : Nat :=
  LittleEndian.decode (bytes.take offsetSize)

def container (bytes : Bytes) : Except DecodeError (List Sidecar) :=
  if bytes.length < offsetSize then .error (.shortOffset bytes.length)
  else if bytes.length < leadingOffset bytes then .error (.offsetPastEnd (leadingOffset bytes))
  else if leadingOffset bytes < offsetSize then
    .error (.offsetIntoFixedPart (leadingOffset bytes))
  else if offsetSize < leadingOffset bytes then
    .error (.offsetPastFixedPart (leadingOffset bytes))
  else body (bytes.drop offsetSize)

def decodeList (bytes : Bytes) : Except ListError (List Sidecar) :=
  match container bytes with
  | .error e => .error (.decode e)
  | .ok sidecars =>
    match checkCount sidecars.length with
    | .error e => .error e
    | .ok () => .ok sidecars

def encodeList (sidecars : List Sidecar) : Bytes :=
  LittleEndian.encode offsetSize offsetSize ++ sidecars.flatMap sidecar.write

def listBytesLength (sidecars : List Sidecar) : Nat :=
  offsetSize + sidecar.extent.inPlace * sidecars.length

end BlobRetrieval.Ssz
