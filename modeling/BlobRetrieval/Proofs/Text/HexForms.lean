import BlobRetrieval.Proofs.Text.HexEdits

/-!
# Which texts denote bytes

A text is read as bytes only if it is one of their written forms: two digits for each byte,
behind a mark or behind none, and nothing else. Where the length is known, it is the number of
these bytes that counts.
-/

set_option autoImplicit false

namespace BlobRetrieval.Hex

/-- Only digits are read as digits. -/
theorem digitOf_of_digit? {b : UInt8} {n : Nat} (h : digit? b = some n) :
    n < 16 ∧ b.toNat < 0x80 ∧ DigitOf n (Char.ofNat b.toNat) := by
  have hdecimal : ∀ n < 10, Char.ofNat (n + 48) = Nat.digitChar n := by decide
  have hsmall : ∀ n < 16, 10 ≤ n → Char.ofNat (n + 87) = Nat.digitChar n := by decide
  have hcapital : ∀ n < 16, 10 ≤ n → Char.ofNat (n + 55) = (Nat.digitChar n).toUpper := by decide
  simp only [digit?, UInt8.le_iff_toNat_le, UInt8.reduceToNat] at h
  split at h
  · obtain rfl := Option.some.inj h
    refine ⟨by omega, by omega, .inl ?_⟩
    rw [← hdecimal _ (by omega), Nat.sub_add_cancel (by omega)]
  · split at h
    · obtain rfl := Option.some.inj h
      refine ⟨by omega, by omega, .inl ?_⟩
      rw [← hsmall _ (by omega) (by omega), Nat.sub_add_cancel (by omega)]
    · split at h
      · obtain rfl := Option.some.inj h
        refine ⟨by omega, by omega, .inr ?_⟩
        rw [← hcapital _ (by omega) (by omega), Nat.sub_add_cancel (by omega)]
      · contradiction

/-- Two digits that are read are those of the byte that they give. -/
theorem digits_cons {high low : UInt8} {p q : Nat} (hp : digit? high = some p)
    (hq : digit? low = some q) {bytes : Bytes} {text : List Char} (h : Digits bytes text) :
    Digits (UInt8.ofNat (16 * p + q) :: bytes)
      (Char.ofNat high.toNat :: Char.ofNat low.toNat :: text) := by
  obtain ⟨hp16, -, hhigh⟩ := digitOf_of_digit? hp
  obtain ⟨hq16, -, hlow⟩ := digitOf_of_digit? hq
  have hbyte : (UInt8.ofNat (16 * p + q)).toNat = 16 * p + q :=
    UInt8.toNat_ofNat_of_lt' (by show _ < 256; omega)
  refine .cons _ _ _ bytes text ?_ ?_ h
  · rwa [hbyte, show (16 * p + q) / 16 = p by omega]
  · rwa [hbyte, show (16 * p + q) % 16 = q by omega]

theorem digits_of_pairs {position : Nat} {done input bytes : Bytes}
    (h : pairs position done input = .ok bytes) {text : List Char}
    (ht : Utf8.encode text = input) :
    ∃ tail, bytes = done.reverse ++ tail ∧ Digits tail text := by
  induction position, done, input using pairs.induct generalizing text with
  | case1 position done high low rest p q hq hp ih =>
    obtain ⟨-, hhigh, -⟩ := digitOf_of_digit? hp
    obtain ⟨-, hlow, -⟩ := digitOf_of_digit? hq
    obtain ⟨more, rfl, hmore⟩ := encode_eq_cons ht hhigh
    obtain ⟨last, rfl, hlast⟩ := encode_eq_cons hmore hlow
    simp only [pairs, hp, hq] at h
    obtain ⟨tail, hbytes, hdigits⟩ := ih h hlast
    refine ⟨_ :: tail, ?_, digits_cons hp hq hdigits⟩
    rw [hbytes, List.reverse_cons, List.append_assoc]
    rfl
  | case2 position done high low rest hp =>
    rw [pairs, hp] at h
    contradiction
  | case3 position done high low rest p hq hp =>
    rw [pairs, hp, hq] at h
    contradiction
  | case4 position done b =>
    rw [pairs] at h
    contradiction
  | case5 position done =>
    refine ⟨[], ?_, ?_⟩
    · rw [List.append_nil]
      exact (Except.ok.inj h).symm
    · cases text with
      | nil => exact .nil
      | cons c more => simp [Utf8.encode] at ht

section Whole

variable {text : List Char} {bytes : Bytes}

theorem form_of_pairs (h : pairs 0 [] (unmarked (Utf8.encode text)) = .ok bytes) :
    Form bytes text := by
  by_cases hmarked : Marked text
  · obtain ⟨mark, rest, hmark, rfl⟩ := hmarked
    obtain ⟨_, rfl, hdigits⟩ := digits_of_pairs h (unmarked_marked hmark rest).1.symm
    exact .marked bytes rest mark hmark hdigits
  · obtain ⟨_, rfl, hdigits⟩ := digits_of_pairs h (unmarked_of_not_marked hmarked).symm
    exact .bare bytes text hdigits

theorem decode_eq_ok : decode (Utf8.encode text) = .ok bytes ↔ Form bytes text := by
  refine ⟨fun h => ?_, decode_form⟩
  rw [decode] at h
  split at h
  · contradiction
  · exact form_of_pairs h

theorem decodeVector_eq_ok {n : Nat} {v : ByteVector n} :
    decodeVector n (Utf8.encode text) = .ok v ↔ Form v.bytes text := by
  refine ⟨fun h => ?_, decodeVector_form⟩
  rw [decodeVector] at h
  split at h
  · contradiction
  · split at h
    · contradiction
    · split at h
      · contradiction
      · rename_i bytes hpairs
        split at h
        · rename_i w hw
          obtain rfl := Except.ok.inj h
          rw [← ByteVector.ofBytes?_eq_some.mp hw]
          exact form_of_pairs hpairs
        · contradiction

end Whole

end BlobRetrieval.Hex
