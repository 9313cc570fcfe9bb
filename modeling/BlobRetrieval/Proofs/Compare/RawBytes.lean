import BlobRetrieval.Compare.Verdict
import BlobRetrieval.Proofs.Fetch.Format
import BlobRetrieval.Sidecar.Sample

/-!
# Comparing bodies byte by byte

The verdict on two collections that were read from binary bodies can be read off the
bodies: their lengths give the counts, and the first byte that differs lies in the first
sidecar that differs. What carries over from sidecars to bytes holds for records of any
kind, if all are written in one width and different ones differently.
-/

set_option autoImplicit false

namespace BlobRetrieval

section FirstDifference

variable {α : Type}

def FirstDiffer (as bs : List α) (p : Nat) : Prop :=
  (∀ i < p, as[i]? = bs[i]?) ∧ as[p]? ≠ bs[p]?

theorem firstDiffer_zero (a b : α) (as bs : List α) :
    FirstDiffer (a :: as) (b :: bs) 0 ↔ a ≠ b := by
  simp [FirstDiffer]

theorem firstDiffer_succ (a b : α) (as bs : List α) (p : Nat) :
    FirstDiffer (a :: as) (b :: bs) (p + 1) ↔ a = b ∧ FirstDiffer as bs p := by
  constructor
  · rintro ⟨hbefore, hhere⟩
    exact ⟨by simpa using hbefore 0 (by omega),
      fun i hi => by simpa using hbefore (i + 1) (by omega), by simpa using hhere⟩
  · rintro ⟨rfl, hbefore, hhere⟩
    refine ⟨?_, by simpa using hhere⟩
    intro i hi
    cases i with
    | zero => rfl
    | succ i => simpa using hbefore i (by omega)

theorem FirstDiffer.lt_length {as bs : List α} {p : Nat} (h : FirstDiffer as bs p)
    (hl : as.length = bs.length) : p < as.length := by
  by_contra hge
  have ha : as[p]? = none := List.getElem?_eq_none (by omega)
  have hb : bs[p]? = none := List.getElem?_eq_none (by omega)
  exact h.2 (ha.trans hb.symm)

variable [DecidableEq α]

/-- Lists of one length differ somewhere or are the same. -/
theorem firstDifference_eq_none {as bs : List α} (hl : as.length = bs.length) :
    firstDifference as bs = none ↔ as = bs := by
  induction as generalizing bs with
  | nil => simp [firstDifference, List.eq_nil_of_length_eq_zero hl.symm]
  | cons a as ih =>
    obtain ⟨b, bs, rfl⟩ := List.exists_cons_of_length_eq_add_one hl.symm
    by_cases hab : a = b
    · simp [firstDifference, hab, ih (Nat.succ.inj hl)]
    · simp [firstDifference, hab]

theorem firstDifference_self (as : List α) : firstDifference as as = none :=
  (firstDifference_eq_none rfl).mpr rfl

theorem firstDifference_eq_some {as bs : List α} (hl : as.length = bs.length) (p : Nat) :
    firstDifference as bs = some p ↔ FirstDiffer as bs p := by
  induction as generalizing bs p with
  | nil => simp [firstDifference, FirstDiffer, List.eq_nil_of_length_eq_zero hl.symm]
  | cons a as ih =>
    obtain ⟨b, bs, rfl⟩ := List.exists_cons_of_length_eq_add_one hl.symm
    cases p with
    | zero =>
      rw [firstDiffer_zero]
      by_cases hab : a = b <;> simp [firstDifference, hab]
    | succ p =>
      rw [firstDiffer_succ, ← ih (Nat.succ.inj hl)]
      by_cases hab : a = b <;> simp [firstDifference, hab]

theorem firstDifference_append {as bs : List α} (hl : as.length = bs.length) (cs ds : List α) :
    firstDifference (as ++ cs) (bs ++ ds) =
      (firstDifference as bs).or ((firstDifference cs ds).map (· + as.length)) := by
  induction as generalizing bs with
  | nil => simp [firstDifference, List.eq_nil_of_length_eq_zero hl.symm]
  | cons a as ih =>
    obtain ⟨b, bs, rfl⟩ := List.exists_cons_of_length_eq_add_one hl.symm
    by_cases hab : a = b
    · simp [firstDifference, hab, ih (Nat.succ.inj hl), Option.map_or, Function.comp_def,
        Nat.add_assoc]
    · simp [firstDifference, hab]

/-- The first records that differ are those in which the first bytes that differ lie. -/
theorem firstDifference_flatMap {β : Type} [DecidableEq β] {width : Nat} (hw : 0 < width)
    (write : α → List β) (hlength : ∀ a, (write a).length = width)
    (hinj : ∀ a b, write a = write b → a = b) {as bs : List α} (hl : as.length = bs.length) :
    (firstDifference (as.flatMap write) (bs.flatMap write)).map (· / width) =
      firstDifference as bs := by
  induction as generalizing bs with
  | nil => simp [firstDifference, List.eq_nil_of_length_eq_zero hl.symm]
  | cons a as ih =>
    obtain ⟨b, bs, rfl⟩ := List.exists_cons_of_length_eq_add_one hl.symm
    have hab : (write a).length = (write b).length := (hlength a).trans (hlength b).symm
    rw [List.flatMap_cons, List.flatMap_cons, firstDifference_append hab, hlength]
    by_cases h : a = b
    · have hsucc : ∀ p, (p + width) / width = p / width + 1 := fun p => Nat.add_div_right p hw
      subst h
      simp [firstDifference, firstDifference_self, ← ih (Nat.succ.inj hl), Function.comp_def,
        hsucc]
    · cases hp : firstDifference (write a) (write b) with
      | none => exact absurd (hinj a b ((firstDifference_eq_none hab).mp hp)) h
      | some p =>
        have hlt := ((firstDifference_eq_some hab p).mp hp).lt_length hab
        rw [hlength] at hlt
        simp [firstDifference, h, Nat.div_eq_of_lt hlt]

end FirstDifference

namespace Ssz

theorem count_of_length (l : List Sidecar) :
    ((encodeList l).length - offsetSize) / sidecarSize = l.length := by
  rw [length_encodeList, Nat.add_sub_cancel_left]
  exact Nat.mul_div_cancel _ (by decide)

theorem length_encodeList_inj {l m : List Sidecar} :
    (encodeList l).length = (encodeList m).length ↔ l.length = m.length := by
  constructor
  · intro h
    rw [← count_of_length l, h, count_of_length]
  · intro h
    rw [length_encodeList, length_encodeList, h]

/-- Behind the offset, a byte is as far into the records as into the body. -/
theorem firstDifference_encodeList {l m : List Sidecar} (hl : l.length = m.length) :
    (firstDifference (encodeList l) (encodeList m)).map (fun p => (p - offsetSize) / sidecarSize) =
      firstDifference l m := by
  have hrecords := firstDifference_flatMap (by decide) sidecar.write sidecar.length_write
    (fun _ _ => sidecar_faithful.write_inj) hl
  rw [encodeList, encodeList, firstDifference_append rfl, firstDifference_self,
    LittleEndian.length_encode, Option.none_or, Option.map_map, ← hrecords]
  simp only [Function.comp_def, Nat.add_sub_cancel]

/-- All binary bodies start with the same offset. -/
theorem offsetSize_le_of_firstDiffer {l m : List Sidecar} {p : Nat}
    (h : FirstDiffer (encodeList l) (encodeList m) p) : offsetSize ≤ p := by
  by_contra hlt
  have hoffset : ∀ c, (encodeList c)[p]? = (LittleEndian.encode offsetSize offsetSize)[p]? := by
    intro c
    exact List.getElem?_append_left (by rw [LittleEndian.length_encode]; omega)
  exact h.2 ((hoffset l).trans (hoffset m).symm)

end Ssz

theorem verdict_found (c d : List Sidecar) :
    verdict (.found c) (.found d) =
      if c.length ≠ d.length then .countMismatch c.length d.length
      else match firstDifference c d with
        | some position => .dataMismatch position
        | none => .same 200 c.length :=
  rfl

/-- The verdict on two binary bodies, told from the bytes alone. -/
theorem verdict_of_bodies {b₁ b₂ : Bytes} {c₁ c₂ : List Sidecar}
    (h₁ : Format.ssz.decode b₁ = .ok c₁) (h₂ : Format.ssz.decode b₂ = .ok c₂) :
    (b₁.length ≠ b₂.length → verdict (.found c₁) (.found c₂) =
      .countMismatch ((b₁.length - 4) / 131928) ((b₂.length - 4) / 131928)) ∧
    (b₁ = b₂ →
      verdict (.found c₁) (.found c₂) = .same 200 ((b₁.length - 4) / 131928)) ∧
    (b₁.length = b₂.length → b₁ ≠ b₂ → ∃ p, FirstDiffer b₁ b₂ p ∧ 4 ≤ p ∧
      verdict (.found c₁) (.found c₂) = .dataMismatch ((p - 4) / 131928)) := by
  obtain ⟨-, rfl⟩ := (Format.decode_ssz_eq_ok b₁ c₁).mp h₁
  obtain ⟨-, rfl⟩ := (Format.decode_ssz_eq_ok b₂ c₂).mp h₂
  refine ⟨?_, ?_, ?_⟩
  · intro hne
    have hcount := mt Ssz.length_encodeList_inj.mpr hne
    rw [verdict_found, if_pos hcount, ← Ssz.count_of_length c₁, ← Ssz.count_of_length c₂]
    rfl
  · intro h
    cases Ssz.encodeList_inj h
    rw [verdict_found, if_neg (not_not_intro rfl), firstDifference_self, ← Ssz.count_of_length c₁]
    rfl
  · intro hl hne
    have hcount := Ssz.length_encodeList_inj.mp hl
    obtain ⟨p, hp⟩ := Option.ne_none_iff_exists'.mp (mt (firstDifference_eq_none hl).mp hne)
    have hrecord := Ssz.firstDifference_encodeList hcount
    rw [hp] at hrecord
    have hfirst := (firstDifference_eq_some hl p).mp hp
    refine ⟨p, hfirst, Ssz.offsetSize_le_of_firstDiffer hfirst, ?_⟩
    rw [verdict_found, if_neg (not_not_intro hcount), ← hrecord]
    rfl

/-- Three sidecars on each side, of which the second ones belong to different slots. -/
theorem verdict_of_bodies_second_differs :
    let c₁ := [Sample.sidecar 0 10, Sample.sidecar 1 10, Sample.sidecar 2 10]
    let c₂ := [Sample.sidecar 0 10, Sample.sidecar 1 11, Sample.sidecar 2 10]
    let b₁ := Ssz.encodeList c₁
    let b₂ := Ssz.encodeList c₂
    Format.ssz.decode b₁ = .ok c₁ ∧ Format.ssz.decode b₂ = .ok c₂ ∧
      b₁.length = b₂.length ∧ b₁ ≠ b₂ ∧ ∃ p, FirstDiffer b₁ b₂ p ∧ 4 ≤ p ∧
        verdict (.found c₁) (.found c₂) = .dataMismatch ((p - 4) / 131928) := by
  intro c₁ c₂ b₁ b₂
  have h₁ : Format.ssz.decode b₁ = .ok c₁ := Format.decode_ssz_encode c₁
  have h₂ : Format.ssz.decode b₂ = .ok c₂ := Format.decode_ssz_encode c₂
  have hcount₁ : c₁.length = 3 := rfl
  have hcount₂ : c₂.length = 3 := rfl
  have hl : b₁.length = b₂.length :=
    Ssz.length_encodeList_inj.mpr (hcount₁.trans hcount₂.symm)
  have hne : b₁ ≠ b₂ := fun h =>
    absurd (congrArg (List.map Sidecar.slot) (Ssz.encodeList_inj h)) (by decide)
  exact ⟨h₁, h₂, hl, hne, (verdict_of_bodies h₁ h₂).2.2 hl hne⟩

end BlobRetrieval
