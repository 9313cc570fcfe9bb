import BlobRetrieval.Fetch.Outcome

/-!
# Comparing two outcomes

The verdict on what a beacon node and an archiver answered for the same identifier,
and its wording.
-/

set_option autoImplicit false

namespace BlobRetrieval

inductive Side where
  | beacon
  | archiver
  deriving DecidableEq

def Side.name : Side → String
  | .beacon => "beacon"
  | .archiver => "archiver"

inductive Verdict where
  | same (status : UInt16) (count : Nat)
  | statusMismatch (beacon archiver : UInt16)
  | countMismatch (beacon archiver : Nat)
  | dataMismatch (position : Nat)
  | failed (side : Side) (badPayload : Bool) (message : String)
  deriving DecidableEq

namespace Verdict

def isMatch : Verdict → Bool
  | .same _ _ => true
  | _ => false

def message : Verdict → String
  | .same status count =>
    "ok (HTTP " ++ toString status.toNat ++ ", " ++ toString count ++ " sidecars)"
  | .statusMismatch beacon archiver =>
    "status mismatch: beacon " ++ toString beacon.toNat ++ ", archiver "
      ++ toString archiver.toNat
  | .countMismatch beacon archiver =>
    "count mismatch: beacon " ++ toString beacon ++ ", archiver " ++ toString archiver
  | .dataMismatch position => "sidecar at position " ++ toString position ++ " differs"
  | .failed side true message => side.name ++ " returned an unusable payload: " ++ message
  | .failed side false message => side.name ++ " fetch failed: " ++ message

def ofError (side : Side) (error : FetchError) : Verdict :=
  .failed side error.isDecode error.message

end Verdict

def firstDifference {α : Type} [DecidableEq α] : List α → List α → Option Nat
  | a :: as, b :: bs => if a = b then (firstDifference as bs).map (· + 1) else some 0
  | _, _ => none

def verdict (beacon archiver : Outcome) : Verdict :=
  match beacon.error?, archiver.error? with
  | some error, _ => .ofError .beacon error
  | none, some error => .ofError .archiver error
  | none, none =>
    if beacon.status ≠ archiver.status then .statusMismatch beacon.status archiver.status
    else if beacon.sidecars.length ≠ archiver.sidecars.length then
      .countMismatch beacon.sidecars.length archiver.sidecars.length
    else match firstDifference beacon.sidecars archiver.sidecars with
      | some position => .dataMismatch position
      | none => .same beacon.status beacon.sidecars.length

end BlobRetrieval
