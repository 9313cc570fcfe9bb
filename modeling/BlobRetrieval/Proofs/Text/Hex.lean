import BlobRetrieval.Hex
import BlobRetrieval.Proofs.Text.Utf8

/-!
# Reading hexadecimal digits

A byte value has many written forms: its digits may have either letter case, one by
one, and a mark may stand in front. All of them are read back to it, both where any
length is allowed and where the length is known.
-/

set_option autoImplicit false

namespace BlobRetrieval.Hex

def DigitOf (n : Nat) (c : Char) : Prop :=
  c = Nat.digitChar n ∨ c = (Nat.digitChar n).toUpper

inductive Digits : Bytes → List Char → Prop
  | nil : Digits [] []
  | cons (b : UInt8) (high low : Char) (bytes : Bytes) (text : List Char) :
      DigitOf (b.toNat / 16) high → DigitOf (b.toNat % 16) low → Digits bytes text →
      Digits (b :: bytes) (high :: low :: text)

inductive Form : Bytes → List Char → Prop
  | bare (bytes : Bytes) (text : List Char) : Digits bytes text → Form bytes text
  | marked (bytes : Bytes) (text : List Char) (mark : Char) : mark = 'x' ∨ mark = 'X' →
      Digits bytes text → Form bytes ('0' :: mark :: text)

theorem digits_encode (bytes : Bytes) : Digits bytes (encode bytes) := by
  induction bytes with
  | nil => exact .nil
  | cons b bytes ih => exact .cons b _ _ bytes _ (.inl rfl) (.inl rfl) ih

theorem form_marked (bytes : Bytes) : Form bytes (marked bytes) :=
  .marked bytes _ 'x' (.inl rfl) (digits_encode bytes)

/-- What holds of the sixteen digits holds of every character of a byte value. -/
theorem of_mem_encode {P : Char → Prop} (h : ∀ n < 16, P (Nat.digitChar n)) {bytes : Bytes}
    {c : Char} (hc : c ∈ encode bytes) : P c := by
  obtain ⟨b, -, hpair⟩ := List.mem_flatMap.mp hc
  have hb := b.toNat_lt
  simp only [pair, List.mem_cons, List.not_mem_nil, or_false] at hpair
  rcases hpair with rfl | rfl
  · exact h _ (by omega)
  · exact h _ (by omega)

theorem digit?_upper (n : Nat) (h : n < 16) :
    String.utf8EncodeChar (Nat.digitChar n).toUpper =
        [UInt8.ofNat (Nat.digitChar n).toUpper.toNat] ∧
      digit? (UInt8.ofNat (Nat.digitChar n).toUpper.toNat) = some n := by
  revert n
  decide

/-- A digit takes one byte, which is read as the digit. -/
theorem DigitOf.byte {n : Nat} {c : Char} (h : DigitOf n c) (hn : n < 16) :
    String.utf8EncodeChar c = [UInt8.ofNat c.toNat] ∧ digit? (UInt8.ofNat c.toNat) = some n := by
  rcases h with rfl | rfl
  · exact ⟨Utf8.encodeChar_digitChar n hn, digit?_digitChar n hn⟩
  · exact digit?_upper n hn

theorem encode_pair (b : UInt8) :
    Utf8.encode (pair b) =
      [UInt8.ofNat (Nat.digitChar (b.toNat / 16)).toNat,
        UInt8.ofNat (Nat.digitChar (b.toNat % 16)).toNat] := by
  have hb := b.toNat_lt
  have hhigh := Utf8.encodeChar_digitChar (b.toNat / 16) (by omega)
  have hlow := Utf8.encodeChar_digitChar (b.toNat % 16) (by omega)
  rw [pair, Utf8.encode, List.flatMap_cons, List.flatMap_cons, List.flatMap_nil, hhigh, hlow]
  rfl

section Digits

variable {b : UInt8} {high low : Char} {bytes : Bytes} {text : List Char}

theorem encode_cons (hhigh : DigitOf (b.toNat / 16) high) (hlow : DigitOf (b.toNat % 16) low)
    (text : List Char) : Utf8.encode (high :: low :: text) =
      UInt8.ofNat high.toNat :: UInt8.ofNat low.toNat :: Utf8.encode text := by
  have hb := b.toNat_lt
  rw [Utf8.encode, List.flatMap_cons, List.flatMap_cons, (hhigh.byte (by omega)).1,
    (hlow.byte (by omega)).1]
  rfl

theorem Digits.length_encode (h : Digits bytes text) :
    (Utf8.encode text).length = 2 * bytes.length := by
  induction h with
  | nil => rfl
  | cons b high low bytes text hhigh hlow _ ih =>
    rw [encode_cons hhigh hlow, List.length_cons, List.length_cons, List.length_cons, ih]
    omega

theorem Digits.pairs (h : Digits bytes text) (position : Nat) (done : Bytes) :
    pairs position done (Utf8.encode text) = .ok (done.reverse ++ bytes) := by
  induction h generalizing position done with
  | nil =>
    rw [List.append_nil]
    rfl
  | cons b high low bytes text hhigh hlow _ ih =>
    have hb := b.toNat_lt
    have hsum : UInt8.ofNat (16 * (b.toNat / 16) + b.toNat % 16) = b := by
      rw [Nat.div_add_mod, UInt8.ofNat_toNat]
    rw [encode_cons hhigh hlow, Hex.pairs, (hhigh.byte (by omega)).2, (hlow.byte (by omega)).2]
    simp only [hsum, ih, List.reverse_cons, List.append_assoc]
    rfl

/-- What follows a digit is no mark. -/
theorem Digits.unmarked (h : Digits bytes text) :
    unmarked (Utf8.encode text) = Utf8.encode text := by
  cases h with
  | nil => rfl
  | cons b high low bytes text hhigh hlow _ =>
    have hb := b.toNat_lt
    have hdigit := (hlow.byte (by omega)).2
    rw [encode_cons hhigh hlow, Hex.unmarked]
    · rintro rest heq
      injection heq with _ heq
      injection heq with hx _
      rw [hx] at hdigit
      cases hdigit
    · rintro rest heq
      injection heq with _ heq
      injection heq with hx _
      rw [hx] at hdigit
      cases hdigit

end Digits

section Form

variable {bytes : Bytes} {text : List Char}

/-- Behind the mark, if there is one, stand the digits alone. -/
theorem Form.unmarked (h : Form bytes text) :
    ∃ digits, Digits bytes digits ∧ unmarked (Utf8.encode text) = Utf8.encode digits ∧
      (Utf8.encode text).length % 2 ≠ 1 := by
  cases h with
  | bare _ hd =>
    refine ⟨text, hd, hd.unmarked, ?_⟩
    rw [hd.length_encode]
    omega
  | marked digits mark hm hd =>
    have hencode : ∃ b, (b = 120 ∨ b = 88) ∧
        Utf8.encode ('0' :: mark :: digits) = 48 :: b :: Utf8.encode digits := by
      rcases hm with rfl | rfl
      · exact ⟨120, .inl rfl, rfl⟩
      · exact ⟨88, .inr rfl, rfl⟩
    obtain ⟨b, hb, hencode⟩ := hencode
    refine ⟨digits, hd, ?_, ?_⟩
    · rw [hencode]
      rcases hb with rfl | rfl <;> rfl
    · rw [hencode, List.length_cons, List.length_cons, hd.length_encode]
      omega

theorem decode_form (h : Form bytes text) : decode (Utf8.encode text) = .ok bytes := by
  obtain ⟨digits, hd, hu, heven⟩ := h.unmarked
  rw [decode, if_neg heven, hu, hd.pairs]
  rfl

theorem decodeVector_form {n : Nat} {v : ByteVector n} (h : Form v.bytes text) :
    decodeVector n (Utf8.encode text) = .ok v := by
  obtain ⟨digits, hd, hu, heven⟩ := h.unmarked
  have hl : (Hex.unmarked (Utf8.encode text)).length = 2 * n := by
    rw [hu, hd.length_encode, v.length_eq]
  rw [decodeVector, if_neg heven, if_neg (not_not_intro hl), hu, hd.pairs]
  simp only [List.reverse_nil, List.nil_append, ByteVector.ofBytes?_bytes]

end Form

theorem encode_inj {bytes other : Bytes} : encode bytes = encode other ↔ bytes = other := by
  constructor
  · intro h
    have hread := decode_form (.bare bytes _ (digits_encode bytes))
    rw [h, decode_form (.bare other _ (digits_encode other))] at hread
    exact (Except.ok.inj hread).symm
  · exact congrArg encode

/-- A capital mark in front of digits in both cases. -/
example : decode (Utf8.encode "0XaBCd".toList) = .ok [171, 205] :=
  rfl

end BlobRetrieval.Hex
