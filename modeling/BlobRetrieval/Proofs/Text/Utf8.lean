import BlobRetrieval.Text.Utf8

/-!
# UTF-8 reads back

Every text is read back from the bytes that it is written as, whatever characters
it holds, and no other bytes are read as it. The reader works byte by byte with a count
of bytes to pass over, so a character is recognized at its first byte and its other bytes
are skipped.
-/

set_option autoImplicit false

namespace BlobRetrieval.Utf8

theorem toNat_tail (n : Nat) : (UInt8.ofNat (n % 0x40 + 0x80)).toNat = n % 0x40 + 0x80 := by
  rw [UInt8.toNat_ofNat']
  omega

theorem continues_tail (n : Nat) : continues (UInt8.ofNat (n % 0x40 + 0x80)) = true := by
  have ht := toNat_tail n
  simp only [continues, UInt8.le_iff_toNat_le, ht, Bool.and_eq_true, decide_eq_true_eq]
  exact ⟨by simp, by simp; omega⟩

theorem front_one (n : Nat) (rest : Bytes) (hu : n ≤ 0x7F) :
    front (UInt8.ofNat n :: rest) = some (Char.ofNat n, 1) := by
  have ha : (UInt8.ofNat n).toNat = n := by rw [UInt8.toNat_ofNat']; omega
  simp only [front, UInt8.lt_iff_toNat_lt, ha]
  exact if_pos (by simp; omega)

theorem front_two (n : Nat) (rest : Bytes) (hl : 0x80 ≤ n) (hu : n ≤ 0x7FF) :
    front (UInt8.ofNat (n / 64 % 0x20 + 0xC0) :: UInt8.ofNat (n % 0x40 + 0x80) :: rest) =
      some (Char.ofNat n, 2) := by
  have ha : (UInt8.ofNat (n / 64 % 0x20 + 0xC0)).toNat = n / 64 + 0xC0 := by
    rw [UInt8.toNat_ofNat']; omega
  have hn : two (UInt8.ofNat (n / 64 % 0x20 + 0xC0)) (UInt8.ofNat (n % 0x40 + 0x80)) = n := by
    have hb := toNat_tail n
    unfold two
    omega
  simp only [front, UInt8.lt_iff_toNat_lt, ha, continues_tail, hn]
  rw [if_neg (by simp), if_neg (by simp; omega), if_pos (by simp; omega), if_true]

theorem front_three (n : Nat) (rest : Bytes) (hl : 0x800 ≤ n) (hu : n ≤ 0xFFFF)
    (hs : n < 0xD800 ∨ 0xDFFF < n) :
    front (UInt8.ofNat (n / 4096 % 0x10 + 0xE0) :: UInt8.ofNat (n / 64 % 0x40 + 0x80) ::
      UInt8.ofNat (n % 0x40 + 0x80) :: rest) = some (Char.ofNat n, 3) := by
  have ha : (UInt8.ofNat (n / 4096 % 0x10 + 0xE0)).toNat = n / 4096 + 0xE0 := by
    rw [UInt8.toNat_ofNat']; omega
  have hn : three (UInt8.ofNat (n / 4096 % 0x10 + 0xE0)) (UInt8.ofNat (n / 64 % 0x40 + 0x80))
      (UInt8.ofNat (n % 0x40 + 0x80)) = n := by
    have hb := toNat_tail (n / 64)
    have hc := toNat_tail n
    unfold three
    omega
  simp only [front, UInt8.lt_iff_toNat_lt, ha, continues_tail, hn]
  rw [if_neg (by simp), if_neg (by simp), if_neg (by simp), if_pos (by simp; omega),
    if_pos (by simpa using ⟨hl, hs⟩)]

theorem front_four (n : Nat) (rest : Bytes) (hl : 0x10000 ≤ n) (hu : n ≤ 0x10FFFF) :
    front (UInt8.ofNat (n / 262144 % 0x08 + 0xF0) :: UInt8.ofNat (n / 4096 % 0x40 + 0x80) ::
      UInt8.ofNat (n / 64 % 0x40 + 0x80) :: UInt8.ofNat (n % 0x40 + 0x80) :: rest) =
      some (Char.ofNat n, 4) := by
  have ha : (UInt8.ofNat (n / 262144 % 0x08 + 0xF0)).toNat = n / 262144 + 0xF0 := by
    rw [UInt8.toNat_ofNat']; omega
  have hn : four (UInt8.ofNat (n / 262144 % 0x08 + 0xF0)) (UInt8.ofNat (n / 4096 % 0x40 + 0x80))
      (UInt8.ofNat (n / 64 % 0x40 + 0x80)) (UInt8.ofNat (n % 0x40 + 0x80)) = n := by
    have hb := toNat_tail (n / 4096)
    have hc := toNat_tail (n / 64)
    have hd := toNat_tail n
    unfold four
    omega
  simp only [front, UInt8.lt_iff_toNat_lt, ha, continues_tail, hn]
  rw [if_neg (by simp), if_neg (by simp), if_neg (by simp), if_neg (by simp),
    if_pos (by simp; omega), if_pos (by simpa using ⟨hl, hu⟩)]

theorem front_encodeChar (c : Char) (rest : Bytes) :
    front (String.utf8EncodeChar c ++ rest) = some (c, (String.utf8EncodeChar c).length) := by
  have hv : c.toNat < 0xD800 ∨ 0xDFFF < c.toNat ∧ c.toNat < 0x110000 := c.valid
  have hc : Char.ofNat c.toNat = c := Char.ofNat_toNat c
  have he : c.val.toNat = c.toNat := rfl
  simp only [String.utf8EncodeChar, he]
  split
  · rename_i h1
    simpa [hc] using front_one c.toNat rest h1
  split
  · simpa [hc] using front_two c.toNat rest (by omega) (by omega)
  split
  · simpa [hc] using front_three c.toNat rest (by omega) (by omega) (by omega)
  · simpa [hc] using front_four c.toNat rest (by omega) (by omega)

theorem decodeFrom_skip (offset : Nat) (done : List Char) (skipped rest : Bytes) :
    decodeFrom offset skipped.length done (skipped ++ rest) =
      decodeFrom (offset + skipped.length) 0 done rest := by
  induction skipped generalizing offset with
  | nil => rfl
  | cons b skipped ih =>
    rw [List.cons_append, List.length_cons, decodeFrom, ih]
    congr 1
    omega

/-- A character in front is taken whole, and the offset moves behind it. -/
theorem decodeFrom_encodeChar (offset : Nat) (done : List Char) (c : Char) (rest : Bytes) :
    decodeFrom offset 0 done (String.utf8EncodeChar c ++ rest) =
      decodeFrom (offset + (String.utf8EncodeChar c).length) 0 (c :: done) rest := by
  have hf := front_encodeChar c rest
  cases hb : String.utf8EncodeChar c with
  | nil => exact absurd hb String.utf8EncodeChar_ne_nil
  | cons b bs =>
    rw [hb, List.cons_append] at hf
    rw [List.cons_append, decodeFrom, hf]
    simp only [List.length_cons, Nat.add_sub_cancel]
    rw [decodeFrom_skip]
    congr 1
    omega

theorem decodeFrom_encode (offset : Nat) (done text : List Char) :
    decodeFrom offset 0 done (encode text) = .ok (done.reverse ++ text) := by
  induction text generalizing offset done with
  | nil => simp [encode, decodeFrom]
  | cons c text ih =>
    rw [encode, List.flatMap_cons, decodeFrom_encodeChar]
    rw [show text.flatMap String.utf8EncodeChar = encode text from rfl, ih]
    simp

theorem decode_encode (text : List Char) : decode (encode text) = .ok text :=
  decodeFrom_encode 0 [] text

theorem encode_append (text more : List Char) :
    encode (text ++ more) = encode text ++ encode more :=
  List.flatMap_append

/-- Digits of any base up to sixteen take one byte. -/
theorem encodeChar_digitChar (n : Nat) (h : n < 16) :
    String.utf8EncodeChar (Nat.digitChar n) = [UInt8.ofNat (Nat.digitChar n).toNat] := by
  revert n
  decide

theorem toNat_ofNat_valid {n : Nat} (h : n < 0xD800 ∨ 0xDFFF < n ∧ n ≤ 0x10FFFF) :
    (Char.ofNat n).val.toNat = n := by
  have hv : n.isValidChar := by
    rcases h with h | h
    · exact .inl h
    · exact .inr ⟨h.1, by omega⟩
  rw [Char.ofNat, dif_pos hv]
  rfl

theorem byte_eq {n : Nat} {b : UInt8} (h : n = b.toNat) : UInt8.ofNat n = b := by
  rw [h, UInt8.ofNat_toNat]

theorem toNat_of_continues {b : UInt8} (h : continues b = true) :
    0x80 ≤ b.toNat ∧ b.toNat ≤ 0xBF := by
  simpa [continues, UInt8.le_iff_toNat_le] using h

theorem encodeChar_one {a : UInt8} (h : a.toNat < 0x80) :
    String.utf8EncodeChar (Char.ofNat a.toNat) = [a] := by
  have hn := toNat_ofNat_valid (n := a.toNat) (by omega)
  simp only [String.utf8EncodeChar, hn]
  rw [if_pos (by omega), UInt8.ofNat_toNat]

theorem encodeChar_two {a b : UInt8} (hl : 0xC2 ≤ a.toNat) (hu : a.toNat < 0xE0)
    (hb : continues b = true) : String.utf8EncodeChar (Char.ofNat (two a b)) = [a, b] := by
  have hb := toNat_of_continues hb
  have hn : two a b = (a.toNat - 0xC0) * 64 + (b.toNat - 0x80) := rfl
  simp only [String.utf8EncodeChar, toNat_ofNat_valid (n := two a b) (by omega)]
  rw [if_neg (by omega), if_pos (by omega), byte_eq (b := a) (by omega),
    byte_eq (b := b) (by omega)]

theorem encodeChar_three {a b c : UInt8} (hl : 0xE0 ≤ a.toNat) (hu : a.toNat < 0xF0)
    (hb : continues b = true) (hc : continues c = true) (hlong : 0x800 ≤ three a b c)
    (hs : three a b c < 0xD800 ∨ 0xDFFF < three a b c) :
    String.utf8EncodeChar (Char.ofNat (three a b c)) = [a, b, c] := by
  have hb := toNat_of_continues hb
  have hc := toNat_of_continues hc
  have hn : three a b c =
    (a.toNat - 0xE0) * 4096 + (b.toNat - 0x80) * 64 + (c.toNat - 0x80) := rfl
  simp only [String.utf8EncodeChar, toNat_ofNat_valid (n := three a b c) (by omega)]
  rw [if_neg (by omega), if_neg (by omega), if_pos (by omega), byte_eq (b := a) (by omega),
    byte_eq (b := b) (by omega), byte_eq (b := c) (by omega)]

theorem encodeChar_four {a b c d : UInt8} (hl : 0xF0 ≤ a.toNat) (hu : a.toNat < 0xF5)
    (hb : continues b = true) (hc : continues c = true) (hd : continues d = true)
    (hlong : 0x10000 ≤ four a b c d) (hlast : four a b c d ≤ 0x10FFFF) :
    String.utf8EncodeChar (Char.ofNat (four a b c d)) = [a, b, c, d] := by
  have hb := toNat_of_continues hb
  have hc := toNat_of_continues hc
  have hd := toNat_of_continues hd
  have hn : four a b c d = (a.toNat - 0xF0) * 262144 + (b.toNat - 0x80) * 4096 +
    (c.toNat - 0x80) * 64 + (d.toNat - 0x80) := rfl
  simp only [String.utf8EncodeChar, toNat_ofNat_valid (n := four a b c d) (by omega)]
  rw [if_neg (by omega), if_neg (by omega), if_neg (by omega), byte_eq (b := a) (by omega),
    byte_eq (b := b) (by omega), byte_eq (b := c) (by omega), byte_eq (b := d) (by omega)]

/-- What is found in front is written as the bytes that it was found in. -/
theorem front_eq_some {bs : Bytes} {c : Char} {n : Nat} (h : front bs = some (c, n)) :
    ∃ rest, bs = String.utf8EncodeChar c ++ rest ∧ (String.utf8EncodeChar c).length = n := by
  cases bs with
  | nil => cases h
  | cons a bs =>
    simp only [front, UInt8.lt_iff_toNat_lt] at h
    split at h
    · rename_i ha
      cases h
      exact ⟨bs, by rw [encodeChar_one ha]; rfl, by rw [encodeChar_one ha]; rfl⟩
    split at h
    · cases h
    rename_i hone htwo
    split at h
    · rename_i ha
      split at h
      · rename_i b rest
        split at h
        · rename_i hb
          obtain ⟨rfl, rfl⟩ := Prod.mk.inj (Option.some.inj h)
          have hchar := encodeChar_two (Nat.not_lt.mp htwo) ha hb
          exact ⟨rest, by rw [hchar]; rfl, by rw [hchar]; rfl⟩
        · cases h
      · cases h
    rename_i hthree
    split at h
    · rename_i ha
      split at h
      · rename_i b d rest
        split at h
        · rename_i hb
          obtain ⟨rfl, rfl⟩ := Prod.mk.inj (Option.some.inj h)
          simp only [Bool.and_eq_true, Bool.or_eq_true, decide_eq_true_eq] at hb
          have hchar := encodeChar_three (Nat.not_lt.mp hthree) ha hb.1.1.1 hb.1.1.2 hb.1.2 hb.2
          exact ⟨rest, by rw [hchar]; rfl, by rw [hchar]; rfl⟩
        · cases h
      · cases h
    rename_i hfour
    split at h
    · rename_i ha
      split at h
      · rename_i b d e rest
        split at h
        · rename_i hb
          obtain ⟨rfl, rfl⟩ := Prod.mk.inj (Option.some.inj h)
          simp only [Bool.and_eq_true, decide_eq_true_eq] at hb
          have hchar := encodeChar_four (Nat.not_lt.mp hfour) ha hb.1.1.1.1 hb.1.1.1.2 hb.1.1.2
            hb.1.2 hb.2
          exact ⟨rest, by rw [hchar]; rfl, by rw [hchar]; rfl⟩
        · cases h
      · cases h
    · cases h

theorem decodeFrom_eq_ok {offset : Nat} {done text : List Char} {bs : Bytes}
    (h : decodeFrom offset 0 done bs = .ok text) :
    ∃ more, text = done.reverse ++ more ∧ encode more = bs := by
  -- Each round takes a character off the front, so the bytes left get fewer.
  induction hlen : bs.length using Nat.strongRecOn generalizing offset done bs with
  | ind len ih =>
    cases bs with
    | nil =>
      cases h
      exact ⟨[], by simp, rfl⟩
    | cons b bs =>
      cases hf : front (b :: bs) with
      | none => simp [decodeFrom, hf] at h
      | some found =>
        obtain ⟨c, n⟩ := found
        obtain ⟨rest, hbs, hn⟩ := front_eq_some hf
        rw [hbs, decodeFrom_encodeChar] at h
        have hpos := List.length_pos_iff.mpr (String.utf8EncodeChar_ne_nil (c := c))
        have hle := congrArg List.length hbs
        rw [List.length_append] at hle
        obtain ⟨more, htext, hmore⟩ := ih rest.length (by omega) h rfl
        refine ⟨c :: more, by simp [htext], ?_⟩
        rw [hbs, ← hmore]
        rfl

theorem decode_eq_ok {bs : Bytes} {text : List Char} : decode bs = .ok text ↔ encode text = bs := by
  constructor
  · intro h
    obtain ⟨more, htext, hmore⟩ := decodeFrom_eq_ok h
    rw [htext, List.reverse_nil, List.nil_append, hmore]
  · intro h
    rw [← h, decode_encode]

/-- Bytes have a text if they are what some text is written as. -/
theorem text?_eq_some {bs : Bytes} {text : String} :
    text? bs = some text ↔ encode text.toList = bs := by
  rw [← decode_eq_ok, text?]
  cases decode bs with
  | error offset => simp
  | ok cs =>
    simp only [Option.some.injEq, Except.ok.injEq]
    constructor
    · rintro rfl
      simp
    · rintro rfl
      simp

end BlobRetrieval.Utf8
