import BlobRetrieval.Proofs.Compare.Decision
import BlobRetrieval.Proofs.Compare.Questions

/-!
# The two sides exchanged

A comparison made the other way round says the same the other way round: numbers change
places, and a failure is put down to the other side. Only where both sides fail does each
order report another failure, that of the side asked first. A check that is made both ways
therefore ends the same, with the same count of identifiers that did not match.
-/

set_option autoImplicit false

namespace BlobRetrieval

def Side.other : Side → Side
  | .beacon => .archiver
  | .archiver => .beacon

inductive Mirrors (first second : Outcome) : Verdict → Verdict → Prop
  | same (status : UInt16) (count : Nat) : first.Comparable second →
      Mirrors first second (.same status count) (.same status count)
  | statuses (m n : UInt16) : first.Comparable second →
      Mirrors first second (.statusMismatch m n) (.statusMismatch n m)
  | counts (m n : Nat) : first.Comparable second →
      Mirrors first second (.countMismatch m n) (.countMismatch n m)
  | contents (position : Nat) : first.Comparable second →
      Mirrors first second (.dataMismatch position) (.dataMismatch position)
  | oneFailed (side : Side) (badPayload : Bool) (message : String) :
      (first.error? = none ↔ second.error? ≠ none) →
      Mirrors first second (.failed side badPayload message) (.failed side.other badPayload message)
  | bothFailed (error other : FetchError) (badPayload otherBad : Bool) :
      first.error? = some error → second.error? = some other →
      (badPayload = true ↔ error.Delivered) → (otherBad = true ↔ other.Delivered) →
      Mirrors first second (.failed .beacon badPayload error.message)
        (.failed .beacon otherBad other.message)

theorem FirstDiffer.symm {α : Type} {as bs : List α} {p : Nat} (h : FirstDiffer as bs p) :
    FirstDiffer bs as p :=
  ⟨fun i hi => (h.1 i hi).symm, h.2.symm⟩

theorem Outcome.Comparable.symm {first second : Outcome} (h : first.Comparable second) :
    second.Comparable first :=
  ⟨h.archiver_ok, h.beacon_ok⟩

theorem verdict_mirrors (first second : Outcome) :
    Mirrors first second (verdict first second) (verdict second first) := by
  have hcalls := callsFor_verdict first second
  generalize verdict first second = v at hcalls
  cases hcalls with
  | beaconFailed error badPayload hfirst hbad =>
    cases hsecond : second.error? with
    | none =>
      rw [verdict_archiverFailed hsecond hfirst hbad]
      exact .oneFailed .beacon badPayload _ (by simp [hfirst, hsecond])
    | some other =>
      rw [verdict_beaconFailed hsecond other.isDecode_iff]
      exact .bothFailed error other badPayload _ hfirst hsecond hbad other.isDecode_iff
  | archiverFailed error badPayload hfirst hsecond hbad =>
    rw [verdict_beaconFailed hsecond hbad]
    exact .oneFailed .archiver badPayload _ (by simp [hfirst, hsecond])
  | statuses h hs =>
    rw [verdict_statuses h.symm (Ne.symm hs)]
    exact .statuses _ _ h
  | counts h hs hl =>
    rw [verdict_counts h.symm hs.symm (Ne.symm hl)]
    exact .counts _ _ h
  | contents position h hs hl _ hd =>
    rw [verdict_contents h.symm hs.symm hl.symm hd.symm]
    exact .contents position h
  | nothing h hs hd =>
    rw [verdict_same h.symm hs.symm (congrArg List.length hd.symm) hd.symm, hs, hd]
    exact .same _ _ h

theorem Mirrors.isMatch {first second : Outcome} {v w : Verdict} (h : Mirrors first second v w) :
    v.isMatch = w.isMatch := by
  cases h <;> rfl

def Matching (first second : Outcome) : Prop :=
  (verdict first second).isMatch = true

theorem matching_iff {first second : Outcome} : Matching first second ↔
    (first.error? = none ∧ second.error? = none) ∧ first.status = second.status ∧
      first.sidecars = second.sidecars := by
  rw [Matching, isMatch_verdict]
  exact and_congr_left fun _ => ⟨fun h => ⟨h.1, h.2⟩, fun h => ⟨h.1, h.2⟩⟩

theorem matching_symm {first second : Outcome} (h : Matching first second) :
    Matching second first := by
  rw [Matching, ← (verdict_mirrors first second).isMatch]
  exact h

theorem matching_trans {first second third : Outcome} (h : Matching first second)
    (h' : Matching second third) : Matching first third := by
  rw [matching_iff] at *
  exact ⟨⟨h.1.1, h'.1.2⟩, h.2.1.trans h'.2.1, h.2.2.trans h'.2.2⟩

theorem matching_self {outcome : Outcome} : Matching outcome outcome ↔ outcome.error? = none := by
  simp [matching_iff]

def Query.toOther (q : Query) : Query :=
  { q with side := q.side.other }

def askedOf (first second : String → Format → Outcome) (q : Query) : Outcome :=
  match q.side with
  | .beacon => first q.id q.format
  | .archiver => second q.id q.format

theorem check_mirrors (answer : Query → Outcome) (ids : List String) (format : Format) :
    List.Forall₂ (fun (r s : String × Verdict) => r.1 = s.1 ∧ r.2.isMatch = s.2.isMatch)
      (check answer ids format) (check (fun q => answer q.toOther) ids format) := by
  rw [check, check, List.forall₂_map_left_iff, List.forall₂_map_right_iff, List.forall₂_same]
  rintro ⟨id, position⟩ -
  exact ⟨rfl, (verdict_mirrors _ _).isMatch⟩

theorem mismatches_congr {results others : List (String × Verdict)}
    (h : List.Forall₂ (fun r s => r.1 = s.1 ∧ r.2.isMatch = s.2.isMatch) results others) :
    mismatches results = mismatches others := by
  induction h with
  | nil => rfl
  | cons hrs _ ih =>
    rw [mismatches, mismatches] at *
    rw [List.countP_cons, List.countP_cons, ih, hrs.2]

/-- A check made the other way round fails just if the check does, and counts the same. -/
theorem checkError?_toOther (answer : Query → Outcome) (ids : List String) (format : Format) :
    checkError? (check (fun q => answer q.toOther) ids format) =
      checkError? (check answer ids format) := by
  have h := check_mirrors answer ids format
  rw [checkError?, checkError?, mismatches_congr h, h.length_eq]

theorem check_askedOf (first second : String → Format → Outcome) (ids : List String)
    (format : Format) : check (askedOf first second) ids format =
      ids.map fun id => (id, verdict (first id format) (second id format)) := by
  have hids : (ids.zipIdx.map Prod.fst).map
      (fun id => (id, verdict (first id format) (second id format))) =
      check (askedOf first second) ids format := List.map_map
  rw [← hids, List.zipIdx_map_fst]

theorem askedOf_toOther (first second : String → Format → Outcome) :
    (fun q : Query => askedOf first second q.toOther) = askedOf second first := by
  funext ⟨position, side, id, format⟩
  cases side <;> rfl

def Servers.exchanged (servers : Servers) : Servers := fun q =>
  servers q.toOther

theorem answer_exchanged (beacon archiver : Client) (ids : List String) (format : Format)
    (servers : Servers) : (Task.compare archiver beacon ids format).answer servers.exchanged =
      fun q => (Task.compare beacon archiver ids format).answer servers q.toOther := by
  funext ⟨position, side, id, format⟩
  cases side <;> rfl

theorem perform_exchanged (beacon archiver : Client) (ids : List String) (format : Format)
    (servers : Servers) (files : Files) (faults : WriteFaults) :
    ((Task.compare archiver beacon ids format).perform servers.exchanged files faults).error =
      ((Task.compare beacon archiver ids format).perform servers files faults).error := by
  obtain ⟨-, -, -, hback⟩ :=
    perform_compare archiver beacon ids format servers.exchanged files faults
  obtain ⟨-, -, -, hthere⟩ := perform_compare beacon archiver ids format servers files faults
  rw [hback, hthere, answer_exchanged, checkError?_toOther]

/-- Two clients that are checked in both orders. Every identifier has verdicts that mirror each
other, both checks end the same, and so do both tasks where the clients ask servers. Matching is
symmetric and transitive, and only a failure does not match itself. -/
theorem check_mirrored (first second : String → Format → Outcome) (ids : List String)
    (format : Format) :
    let there := check (askedOf first second) ids format
    let back := check (askedOf second first) ids format
    there.map Prod.fst = ids ∧
    List.Forall₂ (fun r s => r.1 = s.1 ∧
      Mirrors (first r.1 format) (second r.1 format) r.2 s.2) there back ∧
    checkError? back = checkError? there ∧
    (∀ beacon archiver servers files faults,
      ((Task.compare archiver beacon ids format).perform servers.exchanged files faults).error =
        ((Task.compare beacon archiver ids format).perform servers files faults).error) ∧
    (∀ o p, Matching o p → Matching p o) ∧
    (∀ o p q, Matching o p → Matching p q → Matching o q) ∧
    ∀ o, Matching o o ↔ o.error? = none := by
  intro there back
  refine ⟨?_, ?_, ?_, ?_, ?_, ?_, ?_⟩
  · rw [show there = _ from check_askedOf first second ids format, List.map_map]
    exact List.map_id ids
  · rw [show there = _ from check_askedOf first second ids format,
      show back = _ from check_askedOf second first ids format, List.forall₂_map_left_iff,
      List.forall₂_map_right_iff, List.forall₂_same]
    intro id _
    exact ⟨rfl, verdict_mirrors _ _⟩
  · rw [show back = check (fun q => askedOf first second q.toOther) ids format by
      rw [askedOf_toOther]]
    exact checkError?_toOther _ ids format
  · intro beacon archiver servers files faults
    exact perform_exchanged beacon archiver ids format servers files faults
  · intro o p h
    exact matching_symm h
  · intro o p q h h'
    exact matching_trans h h'
  · intro o
    exact matching_self

end BlobRetrieval
