import BlobRetrieval.Proofs.Json.Members
import BlobRetrieval.Sidecar.Reader

/-!
# What sidecars are as JSON values

The sidecar that a JSON value is, if it is one, told field by field and without a reader. The
readers find in every text of a value just what the value is.
-/

set_option autoImplicit false

namespace BlobRetrieval

open Json

theorem toOption_present_bind {α β : Type} (name : String) (value : Option α)
    (f : α → Except Cause β) :
    (present name value >>= f).toOption = value.bind fun a => (f a).toOption := by
  cases value <;> rfl

/-- A member decides the part of a draft that it is for, and no other. -/
theorem fits_member {δ β : Type} {stage : (List Char → Option Json) → δ} {name : String}
    {get : δ → Option β} {put : δ → β → δ} {read : Reader β} {sem : Json → Option β}
    (set : δ → Option β → δ) (hput : ∀ d b, put d b = set d (some b))
    (hget : ∀ seen, get (stage seen) = (seen name.toList).bind sem)
    (hset : ∀ seen value, set (stage seen) (sem value) =
      stage (Function.update seen name.toList (some value)))
    (hread : ∀ value, Means read value (sem value)) :
    (Field.required name get put read).Fits stage :=
  fits_required hget (fun seen value b hb => by rw [hput, ← hb, hset]) hread

namespace BlockHeader

def fieldNames : List (List Char) :=
  ["slot".toList, "proposer_index".toList, "parent_root".toList, "state_root".toList,
    "body_root".toList]

def ofJson? (value : Json) : Option BlockHeader := do
  let given ← value.fields? fieldNames
  return {
    slot := ← (given "slot".toList).bind quoted?
    proposerIndex := ← (given "proposer_index".toList).bind quoted?
    parentRoot := ← (given "parent_root".toList).bind (vector? rootSize)
    stateRoot := ← (given "state_root".toList).bind (vector? rootSize)
    bodyRoot := ← (given "body_root".toList).bind (vector? rootSize) }

def draftOf (given : List Char → Option Json) : Draft where
  slot := (given "slot".toList).bind quoted?
  proposerIndex := (given "proposer_index".toList).bind quoted?
  parentRoot := (given "parent_root".toList).bind (vector? rootSize)
  stateRoot := (given "state_root".toList).bind (vector? rootSize)
  bodyRoot := (given "body_root".toList).bind (vector? rootSize)

theorem finish_toOption (d : Draft) : (record.finish d).toOption = (do
    return {
      slot := ← d.slot
      proposerIndex := ← d.proposerIndex
      parentRoot := ← d.parentRoot
      stateRoot := ← d.stateRoot
      bodyRoot := ← d.bodyRoot }) := by
  simp only [record, Draft.finish, toOption_present_bind]
  rfl

theorem staged : Staged record draftOf where
  empty := rfl
  congr h := by
    simp only [record, List.forall_mem_cons, Field.required] at h
    obtain ⟨hslot, hproposerIndex, hparentRoot, hstateRoot, hbodyRoot, -⟩ := h
    rw [draftOf, hslot, hproposerIndex, hparentRoot, hstateRoot, hbodyRoot]
    rfl
  names := by decide
  fits f hf := by
    simp only [record, List.mem_cons, List.not_mem_nil, or_false] at hf
    rcases hf with rfl | rfl | rfl | rfl | rfl
    · exact fits_member (fun d slot => { d with slot })
        (fun _ _ => rfl) (fun _ => rfl) (fun _ _ => rfl) means_quoted
    · exact fits_member (fun d proposerIndex => { d with proposerIndex })
        (fun _ _ => rfl) (fun _ => rfl) (fun _ _ => rfl) means_quoted
    · exact fits_member (fun d parentRoot => { d with parentRoot })
        (fun _ _ => rfl) (fun _ => rfl) (fun _ _ => rfl) (means_vector (by decide))
    · exact fits_member (fun d stateRoot => { d with stateRoot })
        (fun _ _ => rfl) (fun _ => rfl) (fun _ _ => rfl) (means_vector (by decide))
    · exact fits_member (fun d bodyRoot => { d with bodyRoot })
        (fun _ _ => rfl) (fun _ => rfl) (fun _ _ => rfl) (means_vector (by decide))
  finish f hf given h := by
    simp only [record, List.mem_cons, List.not_mem_nil, or_false] at hf
    rw [finish_toOption]
    rcases hf with rfl | rfl | rfl | rfl | rfl <;> simp [unset_required h]

theorem means_blockHeader (value : Json) : Means record.read value (ofJson? value) := by
  have hfields : record.fields ≠ [] := by simp [record]
  exact means_made staged hfields (fun given => finish_toOption (draftOf given)) value

end BlockHeader

namespace SignedBlockHeader

def fieldNames : List (List Char) :=
  ["message".toList, "signature".toList]

def ofJson? (value : Json) : Option SignedBlockHeader := do
  let given ← value.fields? fieldNames
  return {
    message := ← (given "message".toList).bind BlockHeader.ofJson?
    signature := ← (given "signature".toList).bind (vector? signatureSize) }

def draftOf (given : List Char → Option Json) : Draft where
  message := (given "message".toList).bind BlockHeader.ofJson?
  signature := (given "signature".toList).bind (vector? signatureSize)

theorem finish_toOption (d : Draft) : (record.finish d).toOption = (do
    return {
      message := ← d.message
      signature := ← d.signature }) := by
  simp only [record, Draft.finish, toOption_present_bind]
  rfl

theorem staged : Staged record draftOf where
  empty := rfl
  congr h := by
    simp only [record, List.forall_mem_cons, Field.required] at h
    obtain ⟨hmessage, hsignature, -⟩ := h
    rw [draftOf, hmessage, hsignature]
    rfl
  names := by decide
  fits f hf := by
    simp only [record, List.mem_cons, List.not_mem_nil, or_false] at hf
    rcases hf with rfl | rfl
    · exact fits_member (fun d message => { d with message })
        (fun _ _ => rfl) (fun _ => rfl) (fun _ _ => rfl) BlockHeader.means_blockHeader
    · exact fits_member (fun d signature => { d with signature })
        (fun _ _ => rfl) (fun _ => rfl) (fun _ _ => rfl) (means_vector (by decide))
  finish f hf given h := by
    simp only [record, List.mem_cons, List.not_mem_nil, or_false] at hf
    rw [finish_toOption]
    rcases hf with rfl | rfl <;> simp [unset_required h]

theorem means_signedBlockHeader (value : Json) : Means record.read value (ofJson? value) := by
  have hfields : record.fields ≠ [] := by simp [record]
  exact means_made staged hfields (fun given => finish_toOption (draftOf given)) value

end SignedBlockHeader

namespace InclusionProof

def ofBranches? (branches : List Root) : Option InclusionProof :=
  if h : branches.length = proofDepth then some ⟨branches, h⟩ else none

def ofJson? (value : Json) : Option InclusionProof :=
  (value.items?.bind (·.mapM (vector? rootSize))).bind ofBranches?

def finishBranches (branches : List Root) : Reader InclusionProof :=
  if h : branches.length = proofDepth then pure ⟨branches, h⟩
  else Reader.failUnplaced (.wrongLength branches.length (.items proofDepth))

theorem gives_finishBranches (branches : List Root) (text : Bytes) :
    Gives (finishBranches branches) text (ofBranches? branches) text := by
  rw [finishBranches, ofBranches?]
  split
  · exact gives_pure _ text
  · exact (refuses_failUnplaced _).gives text text

theorem mapM_bind_ofBranches? {values : List Json} (h : values.length ≠ proofDepth) :
    (values.mapM (vector? rootSize)).bind ofBranches? = none := by
  cases hbranches : values.mapM (vector? rootSize) with
  | none => rfl
  | some branches =>
    rw [(mapM_eq_some.mp hbranches).length_eq] at h
    exact dif_neg h

theorem means_inclusionProof (value : Json) : Means InclusionProof.read value (ofJson? value) := by
  have hbranch : ∀ value, Means (readVector rootSize) value (vector? rootSize value) :=
    means_vector (by decide)
  have hdepth : 0 < proofDepth := by decide
  have hexactly : Means InclusionProof.read value _ :=
    means_arrayOf (encloses_exactly hbranch hdepth gives_finishBranches) value
  have hvalue : ofJson? value = value.items?.bind fun values =>
      if values.length = proofDepth then (values.mapM (vector? rootSize)).bind ofBranches?
      else none := by
    rw [ofJson?, Option.bind_assoc]
    apply Option.bind_congr
    intro values _
    split
    · rfl
    · rename_i hlength
      exact mapM_bind_ofBranches? hlength
  rw [hvalue]
  exact hexactly

end InclusionProof

namespace Sidecar

def fieldNames : List (List Char) :=
  ["index".toList, "blob".toList, "kzg_commitment".toList, "kzg_proof".toList,
    "signed_block_header".toList, "kzg_commitment_inclusion_proof".toList]

def ofJson? (value : Json) : Option Sidecar := do
  let given ← value.fields? fieldNames
  return {
    index := ← (given "index".toList).bind quoted?
    blob := ← (given "blob".toList).bind blob?
    commitment := ← (given "kzg_commitment".toList).bind (vector? commitmentSize)
    proof := ← (given "kzg_proof".toList).bind (vector? commitmentSize)
    header := ← (given "signed_block_header".toList).bind SignedBlockHeader.ofJson?
    inclusion := ← (given "kzg_commitment_inclusion_proof".toList).bind InclusionProof.ofJson? }

def draftOf (given : List Char → Option Json) : Draft where
  index := (given "index".toList).bind quoted?
  blob := (given "blob".toList).bind blob?
  commitment := (given "kzg_commitment".toList).bind (vector? commitmentSize)
  proof := (given "kzg_proof".toList).bind (vector? commitmentSize)
  header := (given "signed_block_header".toList).bind SignedBlockHeader.ofJson?
  inclusion := (given "kzg_commitment_inclusion_proof".toList).bind InclusionProof.ofJson?

theorem finish_toOption (d : Draft) : (record.finish d).toOption = (do
    return {
      index := ← d.index
      blob := ← d.blob
      commitment := ← d.commitment
      proof := ← d.proof
      header := ← d.header
      inclusion := ← d.inclusion }) := by
  simp only [record, Draft.finish, toOption_present_bind]
  rfl

theorem staged : Staged record draftOf where
  empty := rfl
  congr h := by
    simp only [record, List.forall_mem_cons, Field.required] at h
    obtain ⟨hindex, hblob, hcommitment, hproof, hheader, hinclusion, -⟩ := h
    rw [draftOf, hindex, hblob, hcommitment, hproof, hheader, hinclusion]
    rfl
  names := by decide
  fits f hf := by
    simp only [record, List.mem_cons, List.not_mem_nil, or_false] at hf
    rcases hf with rfl | rfl | rfl | rfl | rfl | rfl
    · exact fits_member (fun d index => { d with index })
        (fun _ _ => rfl) (fun _ => rfl) (fun _ _ => rfl) means_quoted
    · exact fits_member (fun d blob => { d with blob })
        (fun _ _ => rfl) (fun _ => rfl) (fun _ _ => rfl) means_blob
    · exact fits_member (fun d commitment => { d with commitment })
        (fun _ _ => rfl) (fun _ => rfl) (fun _ _ => rfl) (means_vector (by decide))
    · exact fits_member (fun d proof => { d with proof })
        (fun _ _ => rfl) (fun _ => rfl) (fun _ _ => rfl) (means_vector (by decide))
    · exact fits_member (fun d header => { d with header })
        (fun _ _ => rfl) (fun _ => rfl) (fun _ _ => rfl) SignedBlockHeader.means_signedBlockHeader
    · exact fits_member (fun d inclusion => { d with inclusion })
        (fun _ _ => rfl) (fun _ => rfl) (fun _ _ => rfl) InclusionProof.means_inclusionProof
  finish f hf given h := by
    simp only [record, List.mem_cons, List.not_mem_nil, or_false] at hf
    rw [finish_toOption]
    rcases hf with rfl | rfl | rfl | rfl | rfl | rfl <;> simp [unset_required h]

theorem means_sidecar (value : Json) : Means record.read value (ofJson? value) := by
  have hfields : record.fields ≠ [] := by simp [record]
  exact means_made staged hfields (fun given => finish_toOption (draftOf given)) value

end Sidecar

namespace Sidecars

def ofJson? (value : Json) : Option (List Sidecar) := do
  let given ← value.fields? ["data".toList]
  (given "data".toList).bind fun data => data.items?.bind (·.mapM Sidecar.ofJson?)

def draftOf (given : List Char → Option Json) : Option (List Sidecar) :=
  (given "data".toList).bind fun data => data.items?.bind (·.mapM Sidecar.ofJson?)

theorem finish_toOption (d : Option (List Sidecar)) : (envelope.finish d).toOption = d := by
  cases d <;> rfl

theorem staged : Staged envelope draftOf where
  empty := rfl
  congr h := by
    simp only [envelope, List.forall_mem_cons, Field.required] at h
    rw [draftOf, h.1]
    rfl
  names := by decide
  fits f hf := by
    simp only [envelope, List.mem_singleton] at hf
    subst hf
    exact fits_member (fun _ sidecars => sidecars) (fun _ _ => rfl) (fun _ => rfl) (fun _ _ => rfl)
      (means_listOf Sidecar.means_sidecar)
  finish f hf given h := by
    simp only [envelope, List.mem_singleton] at hf
    subst hf
    have hunset := unset_required h
    rwa [finish_toOption]

theorem means_envelope (value : Json) : Means envelope.read value (ofJson? value) := by
  have hfields : envelope.fields ≠ [] := by simp [envelope]
  exact means_made staged hfields (fun given => finish_toOption (draftOf given)) value

end Sidecars

end BlobRetrieval
