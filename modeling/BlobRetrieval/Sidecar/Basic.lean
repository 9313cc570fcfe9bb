import BlobRetrieval.Bytes
import BlobRetrieval.Hex

/-!
# Blob sidecars

A sidecar is a blob with the commitment, the proof and the signed header that tie
it to a beacon block. Every length is part of a type, so no value of a wrong
length exists.
-/

set_option autoImplicit false

namespace BlobRetrieval

def blobSize : Nat := 131072

def rootSize : Nat := 32

def commitmentSize : Nat := 48

def signatureSize : Nat := 96

def proofDepth : Nat := 17

def maxSidecars : Nat := 4096

abbrev Root := ByteVector rootSize
abbrev Commitment := ByteVector commitmentSize
abbrev Signature := ByteVector signatureSize
abbrev Blob := ByteVector blobSize

structure LengthError where
  kind : String
  expected : Nat
  actual : Nat
  deriving DecidableEq

def LengthError.message (e : LengthError) : String :=
  "invalid " ++ e.kind ++ " length: expected " ++ toString e.expected ++ " bytes, got "
    ++ toString e.actual

def Blob.ofBytes (bytes : Bytes) : Except LengthError Blob :=
  if h : bytes.length = blobSize then .ok ⟨bytes, h⟩
  else .error ⟨"blob", blobSize, bytes.length⟩

def Blob.brief (blob : Blob) : String :=
  "Blob(" ++ String.ofList (Hex.marked (blob.bytes.take 8)) ++ "..; "
    ++ toString blob.bytes.length ++ " bytes)"

structure InclusionProof where
  branches : List Root
  length_eq : branches.length = proofDepth
  deriving DecidableEq

structure BlockHeader where
  slot : UInt64
  proposerIndex : UInt64
  parentRoot : Root
  stateRoot : Root
  bodyRoot : Root
  deriving DecidableEq

structure SignedBlockHeader where
  message : BlockHeader
  signature : Signature
  deriving DecidableEq

structure Sidecar where
  index : UInt64
  blob : Blob
  commitment : Commitment
  proof : Commitment
  header : SignedBlockHeader
  inclusion : InclusionProof
  deriving DecidableEq

def Sidecar.slot (s : Sidecar) : UInt64 :=
  s.header.message.slot

end BlobRetrieval
