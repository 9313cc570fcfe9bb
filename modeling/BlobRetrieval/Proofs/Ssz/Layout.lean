import BlobRetrieval.Ssz.Sidecar

/-!
# Faithful layouts

A layout is faithful if it writes different values differently and writes back the
vector that it has read. The layouts of the sidecar and of all its parts are faithful.
Nothing is assumed of the values: lengths come from their types alone, and every layout
asks for the size that it announces.
-/

set_option autoImplicit false

namespace BlobRetrieval.Ssz

variable {α : Type} {n : Nat}

structure Layout.Faithful (layout : Layout α n) : Prop where
  encode_inj : ∀ a b, layout.encode a = layout.encode b → a = b
  encode_decode : ∀ v, layout.encode (layout.decode v) = v

namespace Layout

variable (layout : Layout α n)

theorem wanted_eq : layout.wanted = layout.extent :=
  congrArg Extent.fixed layout.sum_widths

theorem read_of_length {bytes : Bytes} (h : bytes.length = n) :
    layout.read bytes = .ok (layout.decode ⟨bytes, h⟩) :=
  dif_pos (h.trans layout.inPlace_wanted.symm)

theorem read_of_length_ne {bytes : Bytes} (h : bytes.length ≠ n) :
    layout.read bytes = .error (.wrongLength bytes.length n) := by
  rw [read, dif_neg fun hl => h (hl.trans layout.inPlace_wanted), inPlace_wanted]

end Layout

namespace Layout.Faithful

variable {layout : Layout α n}

theorem decode_encode (h : layout.Faithful) (a : α) : layout.decode (layout.encode a) = a :=
  h.encode_inj _ _ (h.encode_decode _)

/-- Reading succeeds exactly on what is written. -/
theorem read_eq_ok (h : layout.Faithful) (bytes : Bytes) (a : α) :
    layout.read bytes = .ok a ↔ bytes = layout.write a := by
  constructor
  · intro hr
    by_cases hl : bytes.length = n
    · rw [layout.read_of_length hl] at hr
      rw [← Except.ok.inj hr, Layout.write, h.encode_decode]
    · rw [layout.read_of_length_ne hl] at hr
      cases hr
  · rintro rfl
    rw [layout.read_of_length (layout.length_write a)]
    exact congrArg Except.ok (h.decode_encode a)

theorem write_inj (h : layout.Faithful) {a b : α} (hw : layout.write a = layout.write b) : a = b :=
  h.encode_inj a b (ByteVector.ext hw)

/-- Every byte string of the right length is written by some value. -/
theorem exists_write (h : layout.Faithful) (bytes : Bytes) (hl : bytes.length = n) :
    ∃ a, bytes = layout.write a :=
  ⟨layout.decode ⟨bytes, hl⟩, congrArg ByteVector.bytes (h.encode_decode ⟨bytes, hl⟩).symm⟩

end Layout.Faithful

theorem vector_faithful (n : Nat) : (vector n).Faithful where
  encode_inj _ _ h := h
  encode_decode _ := rfl

theorem uint64_faithful : uint64.Faithful where
  encode_inj a b h := by
    have hb := congrArg (fun v => LittleEndian.decode v.bytes) h
    simp only [uint64, LittleEndian.decode_encode] at hb
    rw [Nat.mod_eq_of_lt a.toNat_lt, Nat.mod_eq_of_lt b.toNat_lt] at hb
    exact UInt64.toNat_inj.mp hb
  encode_decode v := by
    have hd := LittleEndian.decode_lt v.bytes
    rw [v.length_eq] at hd
    have hr := LittleEndian.encode_decode v.bytes
    rw [v.length_eq] at hr
    apply ByteVector.ext
    simp only [uint64, UInt64.toNat_ofNat']
    rw [Nat.mod_eq_of_lt hd, hr]

theorem flatMap_bytes_inj {width : Nat} (vs ws : List (ByteVector width))
    (hl : vs.length = ws.length) (h : vs.flatMap (·.bytes) = ws.flatMap (·.bytes)) : vs = ws := by
  induction vs generalizing ws with
  | nil => exact (List.eq_nil_of_length_eq_zero hl.symm).symm
  | cons v vs ih =>
    obtain ⟨w, ws, rfl⟩ := List.exists_cons_of_length_eq_add_one hl.symm
    simp only [List.flatMap_cons] at h
    obtain ⟨hv, hvs⟩ := List.append_inj h (by simp only [ByteVector.length_eq])
    rw [ByteVector.ext hv, ih ws (by simpa using hl) hvs]

/-- The first `count` windows of one width make up the front of a byte string. -/
theorem flatten_windows (bytes : Bytes) (width count : Nat) :
    (List.ofFn fun d : Fin count => (bytes.drop (width * d)).take width).flatten =
      bytes.take (width * count) := by
  induction count with
  | zero => simp
  | succ count ih =>
    rw [List.ofFn_succ_last, List.flatten_append, Nat.mul_succ, List.take_add, ← ih]
    simp

theorem inclusionProof_faithful : inclusionProof.Faithful where
  encode_inj a b h := by
    have hb := congrArg ByteVector.bytes h
    obtain ⟨as, ha⟩ := a
    obtain ⟨bs, hbs⟩ := b
    simp only [inclusionProof] at hb
    cases flatMap_bytes_inj as bs (ha.trans hbs.symm) hb
    rfl
  encode_decode v := by
    apply ByteVector.ext
    simp only [inclusionProof, List.flatMap, List.map_ofFn]
    have hl : v.bytes.length ≤ rootSize * proofDepth := Nat.le_of_eq v.length_eq
    have hw := flatten_windows v.bytes rootSize proofDepth
    rw [List.take_of_length_le hl] at hw
    exact hw

theorem header_faithful : header.Faithful where
  encode_inj a b h := by
    have h4 := congrArg ByteVector.bytes h
    simp only [header] at h4
    obtain ⟨h3, hbody⟩ := List.append_inj' h4 (by simp only [ByteVector.length_eq])
    obtain ⟨h2, hstate⟩ := List.append_inj' h3 (by simp only [ByteVector.length_eq])
    obtain ⟨h1, hparent⟩ := List.append_inj' h2 (by simp only [ByteVector.length_eq])
    obtain ⟨hslot, hproposer⟩ := List.append_inj' h1 (by simp only [Layout.length_write])
    obtain ⟨⟩ := a
    obtain ⟨⟩ := b
    cases uint64_faithful.write_inj hslot
    cases uint64_faithful.write_inj hproposer
    cases ByteVector.ext hparent
    cases ByteVector.ext hstate
    cases ByteVector.ext hbody
    rfl
  encode_decode v := by
    apply ByteVector.ext
    simp only [header, uint64At, Layout.write, uint64_faithful.encode_decode]
    simp only [ByteVector.slice, List.drop_zero, ← List.take_add]
    exact List.take_of_length_le (Nat.le_of_eq v.length_eq)

theorem signedHeader_faithful : signedHeader.Faithful where
  encode_inj a b h := by
    have h1 := congrArg ByteVector.bytes h
    simp only [signedHeader] at h1
    obtain ⟨hmessage, hsignature⟩ := List.append_inj' h1 (by simp only [ByteVector.length_eq])
    obtain ⟨⟩ := a
    obtain ⟨⟩ := b
    cases header_faithful.write_inj hmessage
    cases ByteVector.ext hsignature
    rfl
  encode_decode v := by
    apply ByteVector.ext
    simp only [signedHeader, Layout.write, header_faithful.encode_decode]
    simp only [ByteVector.slice, List.drop_zero, ← List.take_add]
    exact List.take_of_length_le (Nat.le_of_eq v.length_eq)

theorem sidecarSize_eq : sidecarSize = 131928 :=
  rfl

theorem sidecar_faithful : sidecar.Faithful where
  encode_inj a b h := by
    have h5 := congrArg ByteVector.bytes h
    simp only [sidecar] at h5
    obtain ⟨h4, hinclusion⟩ := List.append_inj' h5 (by simp only [Layout.length_write])
    obtain ⟨h3, hheader⟩ := List.append_inj' h4 (by simp only [Layout.length_write])
    obtain ⟨h2, hproof⟩ := List.append_inj' h3 (by simp only [ByteVector.length_eq])
    obtain ⟨h1, hcommitment⟩ := List.append_inj' h2 (by simp only [ByteVector.length_eq])
    obtain ⟨hindex, hblob⟩ := List.append_inj' h1 (by simp only [ByteVector.length_eq])
    obtain ⟨⟩ := a
    obtain ⟨⟩ := b
    cases uint64_faithful.write_inj hindex
    cases ByteVector.ext hblob
    cases ByteVector.ext hcommitment
    cases ByteVector.ext hproof
    cases signedHeader_faithful.write_inj hheader
    cases inclusionProof_faithful.write_inj hinclusion
    rfl
  encode_decode v := by
    apply ByteVector.ext
    simp only [sidecar, uint64At, Layout.write, uint64_faithful.encode_decode,
      signedHeader_faithful.encode_decode, inclusionProof_faithful.encode_decode]
    simp only [ByteVector.slice, List.drop_zero, ← List.take_add]
    exact List.take_of_length_le (Nat.le_of_eq v.length_eq)

end BlobRetrieval.Ssz
