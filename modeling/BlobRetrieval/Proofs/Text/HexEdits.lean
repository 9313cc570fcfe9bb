import Mathlib.Data.List.Forall2
import BlobRetrieval.Proofs.Text.Hex

/-!
# Digits in another letter case

The letter case of hexadecimal digits makes no difference, nor does a mark in front. This
holds of any text, also of one that denotes no bytes: what is found in it, or why nothing is,
stays the same.
-/

set_option autoImplicit false

namespace BlobRetrieval.Hex

def SameDigit (c d : Char) : Prop :=
  c = d ∨ ∃ n < 16, DigitOf n c ∧ DigitOf n d

def Marked (text : List Char) : Prop :=
  ∃ mark rest, (mark = 'x' ∨ mark = 'X') ∧ text = '0' :: mark :: rest

inductive Edit : List Char → List Char → Prop
  | letterCase (text other : List Char) : List.Forall₂ SameDigit text other → Edit text other
  | mark (mark : Char) (text : List Char) : mark = 'x' ∨ mark = 'X' → ¬ Marked text →
      Edit text ('0' :: mark :: text)
  | unmark (mark : Char) (text : List Char) : mark = 'x' ∨ mark = 'X' → ¬ Marked text →
      Edit ('0' :: mark :: text) text

def Alike (a b : UInt8) : Prop :=
  digit? a = digit? b ∧ (digit? a = none → a = b)

theorem alike_refl (a : UInt8) : Alike a a :=
  ⟨rfl, fun _ => rfl⟩

theorem eq_of_digit?_zero {b : UInt8} (h : digit? b = some 0) : b = 48 := by
  simp only [digit?, UInt8.le_iff_toNat_le] at h
  apply UInt8.toNat_inj.mp
  have h48 : (48 : UInt8).toNat = 48 := rfl
  have h97 : (97 : UInt8).toNat = 97 := rfl
  have h65 : (65 : UInt8).toNat = 65 := rfl
  rw [h48, h97, h65] at h
  split at h
  · have hsub := Option.some.inj h
    omega
  · split at h
    · have hsub := Option.some.inj h
      omega
    · split at h
      · have hsub := Option.some.inj h
        omega
      · contradiction

theorem SameDigit.alike {c d : Char} (h : SameDigit c d) :
    List.Forall₂ Alike (String.utf8EncodeChar c) (String.utf8EncodeChar d) := by
  rcases h with rfl | ⟨n, hn, hc, hd⟩
  · exact List.forall₂_same.mpr fun b _ => alike_refl b
  · obtain ⟨hencode, hdigit⟩ := hc.byte hn
    obtain ⟨hencode', hdigit'⟩ := hd.byte hn
    rw [hencode, hencode']
    refine .cons ⟨by rw [hdigit, hdigit'], fun hnone => ?_⟩ .nil
    rw [hdigit] at hnone
    contradiction

theorem alike_encode {text other : List Char} (h : List.Forall₂ SameDigit text other) :
    List.Forall₂ Alike (Utf8.encode text) (Utf8.encode other) := by
  induction h with
  | nil => exact .nil
  | cons hc _ ih => exact List.rel_append hc.alike ih

theorem pairs_alike {bytes others : Bytes} (h : List.Forall₂ Alike bytes others) (position : Nat)
    (done : Bytes) : pairs position done bytes = pairs position done others := by
  -- A byte that is no digit is reported as it is; there the two texts agree byte for byte.
  induction position, done, bytes using pairs.induct generalizing others with
  | case1 position done a b rest p q ha hb ih =>
    cases h with
    | cons hac hrest =>
      cases hrest with
      | cons hbd hmore => simp only [pairs, ← hac.1, ← hbd.1, ha, hb, ih hmore]
  | case2 position done a b rest ha =>
    cases h with
    | cons hac hrest =>
      cases hrest with
      | cons _ _ =>
        rw [pairs, pairs, ← hac.2 ha, ha]
  | case3 position done a b rest p hb ha =>
    cases h with
    | cons hac hrest =>
      cases hrest with
      | cons hbd _ =>
        rw [pairs, pairs, ← hac.1, ← hbd.2 hb, ha, hb]
  | case4 position done a =>
    cases h with
    | cons _ hrest =>
      cases hrest
      rfl
  | case5 position done =>
    cases h
    rfl

/-- The bytes of a mark are like no others. -/
theorem alike_mark {a b : UInt8} (h : Alike a b) :
    (a = 48 ↔ b = 48) ∧ (a = 120 ↔ b = 120) ∧ (a = 88 ↔ b = 88) := by
  have hsame : ∀ m : UInt8, digit? m = none → (a = m ↔ b = m) := by
    intro m hm
    constructor
    · rintro rfl
      exact (h.2 hm).symm
    · rintro rfl
      exact h.2 (h.1.trans hm)
  refine ⟨⟨?_, ?_⟩, hsame 120 (by decide), hsame 88 (by decide)⟩
  · rintro rfl
    exact eq_of_digit?_zero h.1.symm
  · rintro rfl
    exact eq_of_digit?_zero h.1

theorem unmarked_cons_cons (a b : UInt8) (rest : Bytes) :
    unmarked (a :: b :: rest) = if a = 48 ∧ (b = 120 ∨ b = 88) then rest else a :: b :: rest := by
  unfold unmarked
  split
  · rename_i h
    cases h
    simp
  · rename_i h
    cases h
    simp
  · rename_i hx hX
    rw [if_neg]
    rintro ⟨rfl, rfl | rfl⟩
    · exact hx rest rfl
    · exact hX rest rfl

theorem unmarked_singleton (a : UInt8) : unmarked [a] = [a] := by
  unfold unmarked
  split
  · rename_i h
    cases h
  · rename_i h
    cases h
  · rfl

theorem unmarked_alike {bytes others : Bytes} (h : List.Forall₂ Alike bytes others) :
    List.Forall₂ Alike (unmarked bytes) (unmarked others) := by
  cases h with
  | nil => exact .nil
  | cons hac hrest =>
    cases hrest with
    | nil =>
      rw [unmarked_singleton, unmarked_singleton]
      exact .cons hac .nil
    | cons hbd hmore =>
      obtain ⟨hzero, -, -⟩ := alike_mark hac
      obtain ⟨-, hx, hX⟩ := alike_mark hbd
      simp only [unmarked_cons_cons, hzero, hx, hX]
      split
      · exact hmore
      · exact .cons hac (.cons hbd hmore)

/-- A byte of its own belongs to a character of its own. -/
theorem encode_eq_cons {text : List Char} {b : UInt8} {rest : Bytes}
    (h : Utf8.encode text = b :: rest) (hb : b.toNat < 0x80) :
    ∃ more, text = Char.ofNat b.toNat :: more ∧ Utf8.encode more = rest := by
  cases text with
  | nil => contradiction
  | cons c more =>
    have hfront := Utf8.front_encodeChar c (Utf8.encode more)
    have hone := Utf8.front_one b.toNat rest (by omega)
    rw [Utf8.encode, List.flatMap_cons] at h
    rw [UInt8.ofNat_toNat, ← h] at hone
    have hc : c = Char.ofNat b.toNat := by
      have hsame := hfront.symm.trans hone
      exact (Prod.mk.inj (Option.some.inj hsame)).1
    rw [hc, Utf8.encodeChar_one hb] at h
    exact ⟨more, by rw [hc], (List.cons.inj h).2⟩

theorem unmarked_of_not_marked {text : List Char} (h : ¬ Marked text) :
    unmarked (Utf8.encode text) = Utf8.encode text := by
  unfold unmarked
  split
  · rename_i rest hfront
    obtain ⟨more, rfl, hmore⟩ := encode_eq_cons hfront (by decide)
    obtain ⟨digits, rfl, -⟩ := encode_eq_cons hmore (by decide)
    exact absurd ⟨_, digits, .inl rfl, rfl⟩ h
  · rename_i rest hfront
    obtain ⟨more, rfl, hmore⟩ := encode_eq_cons hfront (by decide)
    obtain ⟨digits, rfl, -⟩ := encode_eq_cons hmore (by decide)
    exact absurd ⟨_, digits, .inr rfl, rfl⟩ h
  · rfl

theorem unmarked_marked {mark : Char} (h : mark = 'x' ∨ mark = 'X') (text : List Char) :
    unmarked (Utf8.encode ('0' :: mark :: text)) = Utf8.encode text ∧
      (Utf8.encode ('0' :: mark :: text)).length = (Utf8.encode text).length + 2 := by
  rcases h with rfl | rfl
  · exact ⟨rfl, rfl⟩
  · exact ⟨rfl, rfl⟩

/-- Texts that differ in letter case and marks alone have the same parity, and the same digits
behind their marks. -/
theorem Edit.alike {text other : List Char} (h : Edit text other) :
    (Utf8.encode text).length % 2 = (Utf8.encode other).length % 2 ∧
      List.Forall₂ Alike (unmarked (Utf8.encode text)) (unmarked (Utf8.encode other)) := by
  have hrefl : ∀ bytes : Bytes, List.Forall₂ Alike bytes bytes :=
    fun bytes => List.forall₂_same.mpr fun b _ => alike_refl b
  cases h with
  | letterCase _ _ h =>
    have halike := alike_encode h
    exact ⟨by rw [halike.length_eq], unmarked_alike halike⟩
  | mark mark _ hmark hbare =>
    obtain ⟨hunmarked, hlength⟩ := unmarked_marked hmark text
    rw [hunmarked, hlength, unmarked_of_not_marked hbare]
    exact ⟨by omega, hrefl _⟩
  | unmark mark _ hmark hbare =>
    obtain ⟨hunmarked, hlength⟩ := unmarked_marked hmark other
    rw [hunmarked, hlength, unmarked_of_not_marked hbare]
    exact ⟨by omega, hrefl _⟩

theorem Edit.decode_eq {text other : List Char} (h : Edit text other) :
    decode (Utf8.encode text) = decode (Utf8.encode other) := by
  obtain ⟨hparity, halike⟩ := h.alike
  rw [decode, decode, hparity, pairs_alike halike]

theorem Edit.decodeVector_eq {text other : List Char} (h : Edit text other) (n : Nat) :
    decodeVector n (Utf8.encode text) = decodeVector n (Utf8.encode other) := by
  obtain ⟨hparity, halike⟩ := h.alike
  rw [decodeVector, decodeVector, hparity, pairs_alike halike, halike.length_eq]

end BlobRetrieval.Hex
