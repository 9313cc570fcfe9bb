import BlobRetrieval.Proofs.Ssz.Layout

/-!
# The binary list accepts what it writes

A byte string is framed if it is the offset four and then whole sidecars. Framed
byte strings are exactly the written lists, and reading returns the list unless
it is longer than the limit. Nothing else is read: neither another offset nor a
part of a sidecar behind the last whole one.
-/

set_option autoImplicit false

namespace BlobRetrieval.Ssz

def Framed (count : Nat) (bytes : Bytes) : Prop :=
  ∃ content : Bytes, bytes = [4, 0, 0, 0] ++ content ∧ content.length = count * sidecarSize

theorem length_flatMap_write (l : List Sidecar) :
    (l.flatMap sidecar.write).length = l.length * sidecarSize := by
  induction l with
  | nil => simp
  | cons s l ih =>
    rw [List.flatMap_cons, List.length_append, ih, Layout.length_write, List.length_cons,
      Nat.succ_mul, Nat.add_comm]

theorem length_encodeList (l : List Sidecar) :
    (encodeList l).length = offsetSize + l.length * sidecarSize := by
  rw [encodeList, List.length_append, length_flatMap_write, LittleEndian.length_encode]

/-- A writer of a list makes room for what it writes. -/
theorem listBytesLength_eq (l : List Sidecar) : listBytesLength l = (encodeList l).length := by
  rw [length_encodeList, Nat.mul_comm]
  rfl

/-- Whatever stands behind the records that are asked for is not looked at. -/
theorem records_eq_ok (count : Nat) (bytes : Bytes) (l : List Sidecar) :
    records count bytes = .ok l ↔ l.length = count ∧ l.flatMap sidecar.write <+: bytes := by
  induction count generalizing bytes l with
  | zero =>
    rw [records]
    constructor
    · rintro ⟨⟩
      simp
    · rintro ⟨hl, -⟩
      rw [List.eq_nil_of_length_eq_zero hl]
  | succ count ih =>
    constructor
    · intro h
      rw [records] at h
      split at h
      · cases h
      rename_i s hs
      split at h
      · cases h
      rename_i rest hrest
      cases h
      obtain ⟨hl, hp⟩ := (ih _ _).mp hrest
      refine ⟨by rw [List.length_cons, hl], ?_⟩
      have hjoin := (List.prefix_append_right_inj (bytes.take sidecarSize)).mpr hp
      rw [List.take_append_drop] at hjoin
      rwa [List.flatMap_cons, ← (sidecar_faithful.read_eq_ok _ _).mp hs]
    · rintro ⟨hl, tail, rfl⟩
      obtain ⟨s, rest, rfl⟩ := List.exists_cons_of_length_eq_add_one hl
      have hs := sidecar.length_write s
      have hrest := (ih (rest.flatMap sidecar.write ++ tail) rest).mpr
        ⟨by simpa using hl, List.prefix_append _ _⟩
      rw [records, List.flatMap_cons, List.append_assoc, List.take_left' hs, List.drop_left' hs,
        (sidecar_faithful.read_eq_ok _ s).mpr rfl, hrest]

/-- The number of records is rounded up, so a part of a record makes one too many. -/
theorem body_eq_ok (bytes : Bytes) (l : List Sidecar) :
    body bytes = .ok l ↔ bytes = l.flatMap sidecar.write := by
  have hw := length_flatMap_write l
  rw [body, records_eq_ok]
  simp only [sidecarSize_eq] at hw ⊢
  constructor
  · rintro ⟨hl, hp⟩
    exact (hp.eq_of_length_le (by omega)).symm
  · rintro rfl
    exact ⟨by omega, List.prefix_rfl⟩

theorem leadingOffset_eq (bytes : Bytes) (hl : offsetSize ≤ bytes.length) :
    leadingOffset bytes = offsetSize ↔ bytes.take offsetSize = [4, 0, 0, 0] := by
  have ht : (bytes.take offsetSize).length = offsetSize := List.length_take_of_le hl
  have he := LittleEndian.encode_decode (bytes.take offsetSize)
  rw [ht] at he
  unfold leadingOffset
  constructor
  · intro h
    rw [← he, h]
    rfl
  · intro h
    rw [h]
    rfl

theorem container_eq_ok (bytes : Bytes) (l : List Sidecar) :
    container bytes = .ok l ↔ bytes = encodeList l := by
  unfold container
  constructor
  · intro h
    split at h
    · cases h
    rename_i hl
    split at h
    · cases h
    split at h
    · cases h
    rename_i hge
    split at h
    · cases h
    rename_i hle
    have ho := (leadingOffset_eq bytes (by omega)).mp (by omega)
    rw [body_eq_ok] at h
    rw [← List.take_append_drop offsetSize bytes, ho, h]
    rfl
  · rintro rfl
    have hl : offsetSize ≤ (encodeList l).length := by simp [encodeList, LittleEndian.length_encode]
    have ho := (leadingOffset_eq (encodeList l) hl).mpr rfl
    rw [if_neg (by omega), if_neg (by omega), if_neg (by omega), if_neg (by omega), body_eq_ok]
    rfl

theorem exists_flatMap_write (count : Nat) (content : Bytes)
    (h : content.length = count * sidecarSize) :
    ∃ l : List Sidecar, l.length = count ∧ content = l.flatMap sidecar.write := by
  induction count generalizing content with
  | zero => exact ⟨[], rfl, List.eq_nil_of_length_eq_zero (by omega)⟩
  | succ count ih =>
    rw [Nat.succ_mul] at h
    obtain ⟨s, hs⟩ := sidecar_faithful.exists_write (content.take sidecarSize) (by simp; omega)
    obtain ⟨l, hl, hrest⟩ := ih (content.drop sidecarSize) (by simp; omega)
    refine ⟨s :: l, by rw [List.length_cons, hl], ?_⟩
    rw [List.flatMap_cons, ← hs, ← hrest, List.take_append_drop]

theorem framed_iff (count : Nat) (bytes : Bytes) :
    Framed count bytes ↔ ∃ l : List Sidecar, l.length = count ∧ bytes = encodeList l := by
  constructor
  · rintro ⟨content, rfl, hc⟩
    obtain ⟨l, hl, rfl⟩ := exists_flatMap_write count content hc
    exact ⟨l, hl, rfl⟩
  · rintro ⟨l, rfl, rfl⟩
    exact ⟨l.flatMap sidecar.write, rfl, length_flatMap_write l⟩

theorem encodeList_inj {l m : List Sidecar} (h : encodeList l = encodeList m) : l = m := by
  have hl := (container_eq_ok (encodeList m) l).mpr h.symm
  have hm := (container_eq_ok (encodeList m) m).mpr rfl
  exact Except.ok.inj (hl.symm.trans hm)

theorem decodeList_encodeList (l : List Sidecar) :
    decodeList (encodeList l) =
      if l.length ≤ maxSidecars then .ok l else .error (.tooMany l.length) := by
  rw [decodeList, (container_eq_ok _ l).mpr rfl]
  by_cases h : l.length ≤ maxSidecars
  · simp [checkCount, h, Nat.not_lt.mpr h]
  · simp [checkCount, h, Nat.not_le.mp h]

/-- A byte string that is no written list is refused before anything is counted. -/
theorem decodeList_unwritten (bytes : Bytes) (h : ∀ l, bytes ≠ encodeList l) :
    ∃ e, decodeList bytes = .error (.decode e) := by
  cases hc : container bytes with
  | error e => exact ⟨e, by rw [decodeList, hc]⟩
  | ok l => exact absurd ((container_eq_ok bytes l).mp hc) (h l)

theorem decodeList_eq_ok (bytes : Bytes) (l : List Sidecar) :
    decodeList bytes = .ok l ↔ l.length ≤ maxSidecars ∧ bytes = encodeList l := by
  constructor
  · intro h
    by_cases hw : ∃ m, bytes = encodeList m
    · obtain ⟨m, rfl⟩ := hw
      rw [decodeList_encodeList] at h
      split at h
      · rename_i hm
        cases h
        exact ⟨hm, rfl⟩
      · cases h
    · obtain ⟨e, he⟩ := decodeList_unwritten bytes (not_exists.mp hw)
      rw [he] at h
      cases h
  · rintro ⟨hl, rfl⟩
    rw [decodeList_encodeList, if_pos hl]

theorem decodeList_eq_tooMany (bytes : Bytes) (count : Nat) :
    decodeList bytes = .error (.tooMany count) ↔ Framed count bytes ∧ maxSidecars < count := by
  rw [framed_iff]
  constructor
  · intro h
    by_cases hw : ∃ m, bytes = encodeList m
    · obtain ⟨m, rfl⟩ := hw
      rw [decodeList_encodeList] at h
      split at h
      · cases h
      · rename_i hm
        cases h
        exact ⟨⟨m, rfl, rfl⟩, Nat.not_le.mp hm⟩
    · obtain ⟨e, he⟩ := decodeList_unwritten bytes (not_exists.mp hw)
      rw [he] at h
      cases h
  · rintro ⟨⟨l, rfl, rfl⟩, hl⟩
    rw [decodeList_encodeList, if_neg (Nat.not_le.mpr hl)]

theorem decodeList_eq_decode (bytes : Bytes) :
    (∃ e, decodeList bytes = .error (.decode e)) ↔ ∀ count, ¬ Framed count bytes := by
  constructor
  · rintro ⟨e, he⟩ count hf
    obtain ⟨l, rfl, rfl⟩ := (framed_iff count bytes).mp hf
    rw [decodeList_encodeList] at he
    split at he <;> cases he
  · intro h
    apply decodeList_unwritten
    rintro l rfl
    exact h l.length ((framed_iff _ _).mpr ⟨l, rfl, rfl⟩)

/-- Reading and writing lists are inverse to each other on the framed byte strings of up to
4096 sidecars. A longer framed one is refused for its count, and any other for its form. -/
theorem decodeList_framing (bytes : Bytes) :
    ((∃ l, decodeList bytes = .ok l) ↔ ∃ count, count ≤ maxSidecars ∧ Framed count bytes) ∧
    (∀ count, decodeList bytes = .error (.tooMany count) ↔
      Framed count bytes ∧ maxSidecars < count) ∧
    ((∃ e, decodeList bytes = .error (.decode e)) ↔ ∀ count, ¬ Framed count bytes) ∧
    (∀ l, decodeList bytes = .ok l ↔ l.length ≤ maxSidecars ∧ encodeList l = bytes) ∧
    (∀ l, decodeList (encodeList l) =
      if l.length ≤ maxSidecars then .ok l else .error (.tooMany l.length)) := by
  refine ⟨?_, decodeList_eq_tooMany bytes, decodeList_eq_decode bytes, ?_,
    decodeList_encodeList⟩
  · simp only [decodeList_eq_ok, framed_iff]
    constructor
    · rintro ⟨l, hl, rfl⟩
      exact ⟨l.length, hl, l, rfl, rfl⟩
    · rintro ⟨count, hc, l, rfl, rfl⟩
      exact ⟨l, hc, rfl⟩
  · intro l
    rw [decodeList_eq_ok, eq_comm (a := bytes)]

end BlobRetrieval.Ssz
