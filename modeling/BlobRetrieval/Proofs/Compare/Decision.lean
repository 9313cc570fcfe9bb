import BlobRetrieval.Proofs.Compare.RawBytes

/-!
# What decides a verdict

Two outcomes are looked at in a fixed order: the error of the beacon node, that of the
archiver, the statuses, the counts, and the contents. The first of these that tells the
outcomes apart is the verdict, and the search for a difference in the contents finds the
least one. Only outcomes with sidecars get as far as counts and contents.
-/

set_option autoImplicit false

namespace BlobRetrieval

def FetchError.Delivered (error : FetchError) : Prop :=
  ∀ cause, error ≠ .transport cause

theorem FetchError.isDecode_iff (error : FetchError) : error.isDecode = true ↔ error.Delivered := by
  cases error <;> simp [isDecode, Delivered]

structure Outcome.Comparable (beacon archiver : Outcome) : Prop where
  beacon_ok : beacon.error? = none
  archiver_ok : archiver.error? = none

inductive CallsFor (beacon archiver : Outcome) : Verdict → Prop
  | beaconFailed (error : FetchError) (badPayload : Bool) : beacon.error? = some error →
      (badPayload = true ↔ error.Delivered) →
      CallsFor beacon archiver (.failed .beacon badPayload error.message)
  | archiverFailed (error : FetchError) (badPayload : Bool) : beacon.error? = none →
      archiver.error? = some error → (badPayload = true ↔ error.Delivered) →
      CallsFor beacon archiver (.failed .archiver badPayload error.message)
  | statuses : beacon.Comparable archiver → beacon.status ≠ archiver.status →
      CallsFor beacon archiver (.statusMismatch beacon.status archiver.status)
  | counts : beacon.Comparable archiver → beacon.status = archiver.status →
      beacon.sidecars.length ≠ archiver.sidecars.length →
      CallsFor beacon archiver
        (.countMismatch beacon.sidecars.length archiver.sidecars.length)
  | contents (position : Nat) : beacon.Comparable archiver → beacon.status = archiver.status →
      beacon.sidecars.length = archiver.sidecars.length → position < beacon.sidecars.length →
      FirstDiffer beacon.sidecars archiver.sidecars position →
      CallsFor beacon archiver (.dataMismatch position)
  | nothing : beacon.Comparable archiver → beacon.status = archiver.status →
      beacon.sidecars = archiver.sidecars →
      CallsFor beacon archiver (.same beacon.status beacon.sidecars.length)

section Verdict

variable {beacon archiver : Outcome}

theorem verdict_beaconFailed {error : FetchError} {badPayload : Bool}
    (hb : beacon.error? = some error) (hbad : badPayload = true ↔ error.Delivered) :
    verdict beacon archiver = .failed .beacon badPayload error.message := by
  have hkind : error.isDecode = badPayload := by
    rw [Bool.eq_iff_iff, error.isDecode_iff, hbad]
  simp only [verdict, hb, Verdict.ofError, hkind]

theorem verdict_archiverFailed {error : FetchError} {badPayload : Bool}
    (hb : beacon.error? = none) (ha : archiver.error? = some error)
    (hbad : badPayload = true ↔ error.Delivered) :
    verdict beacon archiver = .failed .archiver badPayload error.message := by
  have hkind : error.isDecode = badPayload := by
    rw [Bool.eq_iff_iff, error.isDecode_iff, hbad]
  simp only [verdict, hb, ha, Verdict.ofError, hkind]

section Comparable

variable (h : beacon.Comparable archiver)

include h

theorem verdict_statuses (hs : beacon.status ≠ archiver.status) :
    verdict beacon archiver = .statusMismatch beacon.status archiver.status := by
  simp only [verdict, h.beacon_ok, h.archiver_ok, if_pos hs]

variable (hs : beacon.status = archiver.status)

include hs

theorem verdict_counts (hl : beacon.sidecars.length ≠ archiver.sidecars.length) :
    verdict beacon archiver =
      .countMismatch beacon.sidecars.length archiver.sidecars.length := by
  simp only [verdict, h.beacon_ok, h.archiver_ok, if_neg (not_not_intro hs), if_pos hl]

variable (hl : beacon.sidecars.length = archiver.sidecars.length)

include hl

theorem verdict_contents {position : Nat}
    (hd : FirstDiffer beacon.sidecars archiver.sidecars position) :
    verdict beacon archiver = .dataMismatch position := by
  simp only [verdict, h.beacon_ok, h.archiver_ok, if_neg (not_not_intro hs),
    if_neg (not_not_intro hl), (firstDifference_eq_some hl position).mpr hd]

theorem verdict_same (hd : beacon.sidecars = archiver.sidecars) :
    verdict beacon archiver = .same beacon.status beacon.sidecars.length := by
  simp only [verdict, h.beacon_ok, h.archiver_ok, if_neg (not_not_intro hs),
    if_neg (not_not_intro hl), (firstDifference_eq_none hl).mpr hd]

end Comparable

/-- Two outcomes call for one verdict only. -/
theorem CallsFor.eq_verdict {v : Verdict} (h : CallsFor beacon archiver v) :
    verdict beacon archiver = v := by
  cases h with
  | beaconFailed error badPayload hb hbad => exact verdict_beaconFailed hb hbad
  | archiverFailed error badPayload hb ha hbad => exact verdict_archiverFailed hb ha hbad
  | statuses h hs => exact verdict_statuses h hs
  | counts h hs hl => exact verdict_counts h hs hl
  | contents position h hs hl _ hd => exact verdict_contents h hs hl hd
  | nothing h hs hd => exact verdict_same h hs (congrArg List.length hd) hd

theorem exists_callsFor (beacon archiver : Outcome) : ∃ v, CallsFor beacon archiver v := by
  cases hb : beacon.error? with
  | some error => exact ⟨_, .beaconFailed error _ hb error.isDecode_iff⟩
  | none =>
    cases ha : archiver.error? with
    | some error => exact ⟨_, .archiverFailed error _ hb ha error.isDecode_iff⟩
    | none =>
      have h : beacon.Comparable archiver := ⟨hb, ha⟩
      by_cases hs : beacon.status = archiver.status
      · by_cases hl : beacon.sidecars.length = archiver.sidecars.length
        · cases hd : firstDifference beacon.sidecars archiver.sidecars with
          | none => exact ⟨_, .nothing h hs ((firstDifference_eq_none hl).mp hd)⟩
          | some position =>
            have hfirst := (firstDifference_eq_some hl position).mp hd
            exact ⟨_, .contents position h hs hl (hfirst.lt_length hl) hfirst⟩
        · exact ⟨_, .counts h hs hl⟩
      · exact ⟨_, .statuses h hs⟩

theorem callsFor_verdict (beacon archiver : Outcome) :
    CallsFor beacon archiver (verdict beacon archiver) := by
  obtain ⟨v, hv⟩ := exists_callsFor beacon archiver
  rw [hv.eq_verdict]
  exact hv

/-- Sidecars are shown with the status 200 only. -/
theorem Outcome.sidecars_of_status (o : Outcome) (h : o.status ≠ 200) : o.sidecars = [] := by
  cases o with
  | found sidecars => exact absurd rfl h
  | passthrough status not_ok => rfl
  | failed error => rfl

/-- Outcomes of one status that show different sidecars are both of status 200. -/
theorem Outcome.status_of_sidecars_ne (hs : beacon.status = archiver.status)
    (hd : beacon.sidecars ≠ archiver.sidecars) : beacon.status = 200 ∧ archiver.status = 200 := by
  have hok : beacon.status = 200 := by
    by_contra hne
    apply hd
    rw [beacon.sidecars_of_status hne, archiver.sidecars_of_status (hs ▸ hne)]
  exact ⟨hok, hs ▸ hok⟩

theorem FirstDiffer.ne {α : Type} {as bs : List α} {p : Nat} (h : FirstDiffer as bs p) :
    as ≠ bs := by
  intro heq
  exact h.2 (by rw [heq])

theorem isMatch_verdict : (verdict beacon archiver).isMatch = true ↔
    beacon.Comparable archiver ∧ beacon.status = archiver.status ∧
      beacon.sidecars = archiver.sidecars := by
  constructor
  · intro hm
    have hcalls := callsFor_verdict beacon archiver
    cases hv : verdict beacon archiver with
    | same status count =>
      rw [hv] at hcalls
      cases hcalls with
      | nothing h hs hd => exact ⟨h, hs, hd⟩
    | _ => simp [hv, Verdict.isMatch] at hm
  · intro h
    rw [(CallsFor.nothing h.1 h.2.1 h.2.2).eq_verdict]
    rfl

end Verdict

structure Verdict.Grounded (beacon archiver : Outcome) (v : Verdict) : Prop where
  calledFor : ∀ w, v = w ↔ CallsFor beacon archiver w
  isMatch : v.isMatch = true ↔ beacon.error? = none ∧ archiver.error? = none ∧
    beacon.status = archiver.status ∧ beacon.sidecars = archiver.sidecars
  counts : ∀ m n, v = .countMismatch m n → beacon.status = 200 ∧ archiver.status = 200
  contents : ∀ position, v = .dataMismatch position →
    beacon.status = 200 ∧ archiver.status = 200
  empty : ∀ status count, v = .same status count → status ≠ 200 → count = 0

/-- On any two outcomes the verdict is the one that they call for, so it is a match only if
neither failed and both show the same. -/
theorem verdict_grounded (beacon archiver : Outcome) :
    (verdict beacon archiver).Grounded beacon archiver where
  calledFor w := ⟨fun h => h ▸ callsFor_verdict beacon archiver, CallsFor.eq_verdict⟩
  isMatch := by
    rw [isMatch_verdict]
    exact ⟨fun ⟨h, hs, hd⟩ => ⟨h.1, h.2, hs, hd⟩, fun ⟨hb, ha, hs, hd⟩ => ⟨⟨hb, ha⟩, hs, hd⟩⟩
  counts m n h := by
    have hcalls := callsFor_verdict beacon archiver
    rw [h] at hcalls
    cases hcalls with
    | counts _ hs hl => exact Outcome.status_of_sidecars_ne hs fun hd => hl (by rw [hd])
  contents position h := by
    have hcalls := callsFor_verdict beacon archiver
    rw [h] at hcalls
    cases hcalls with
    | contents _ _ hs _ _ hfirst => exact Outcome.status_of_sidecars_ne hs hfirst.ne
  empty status count h hne := by
    have hcalls := callsFor_verdict beacon archiver
    rw [h] at hcalls
    cases hcalls with
    | nothing => rw [beacon.sidecars_of_status hne, List.length_nil]

/-- A failure that shows status 200 and nothing else is no match for an empty collection. -/
example : (verdict (.found []) (.failed (.body .notAnUrl))).isMatch = false :=
  rfl

end BlobRetrieval
