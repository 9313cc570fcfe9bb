import BlobRetrieval.Proofs.Json.Denoted

/-!
# Numbers in quotes

A number in quotes is read from the texts of its digits, behind which nothing and in front of
which only zeros and one plus sign may stand. Without quotes it is read from its digits alone.
Where the digits add up to more than 64 bits hold, nothing is read.
-/

set_option autoImplicit false

namespace BlobRetrieval

namespace Decimal

structure Numeral (n : Nat) (text : List Char) : Prop where
  nonempty : text ≠ []
  digits : ∀ c ∈ text, c.isDigit = true
  sum : Nat.ofDigitChars 10 text 0 = n

structure Canonical (n : Nat) (text : List Char) : Prop extends Numeral n text where
  no_zero : ∀ rest, text = '0' :: rest → rest = []

section Numeral

variable {n : Nat} {text : List Char}

theorem numeral_zeros_digits (zeros n : Nat) :
    Numeral n (List.replicate zeros '0' ++ digits n) where
  nonempty := by simp [digits, Nat.toDigits_ne_nil]
  digits := isDigit_zeros_digits zeros n
  sum := by
    have hzeros : Nat.ofDigitChars 10 (List.replicate zeros '0') 0 = 0 := by
      induction zeros with
      | zero => rfl
      | succ zeros ih => rwa [List.replicate_succ, Nat.ofDigitChars_cons]
    rw [Nat.ofDigitChars_append, hzeros, Decimal.digits, Nat.ofDigitChars_ten_toDigits]

theorem Numeral.eq_zeros (h : Numeral n text) :
    ∃ zeros, text = List.replicate zeros '0' ++ Decimal.digits n := by
  have hzeros := eq_zeros_digits h.nonempty h.digits
  rwa [h.sum] at hzeros

theorem canonical_iff : Canonical n text ↔ text = digits n := by
  constructor
  · intro h
    obtain ⟨zeros, hzeros⟩ := h.eq_zeros
    cases zeros with
    | zero => exact hzeros
    | succ zeros =>
      have hnil := h.no_zero (List.replicate zeros '0' ++ digits n) hzeros
      exact absurd hnil (numeral_zeros_digits zeros n).nonempty
  · rintro rfl
    refine ⟨numeral_zeros_digits 0 n, fun rest hrest => ?_⟩
    rcases Nat.eq_zero_or_pos n with rfl | hpos
    · exact (List.cons.inj hrest).2.symm
    · obtain ⟨c, more, hfront, hc⟩ := digits_of_pos hpos
      rw [hfront] at hrest
      exact absurd (List.cons.inj hrest).1 hc

/-- The ways of writing a number are its numerals, with a plus sign in front or without. -/
theorem form_iff_numeral :
    Form n text ↔ Numeral n text ∨ ∃ numeral, text = '+' :: numeral ∧ Numeral n numeral := by
  constructor
  · rintro ⟨plus, zeros, rfl | rfl, rfl⟩
    · exact .inl (numeral_zeros_digits zeros n)
    · exact .inr ⟨_, rfl, numeral_zeros_digits zeros n⟩
  · rintro (h | ⟨numeral, rfl, h⟩)
    · obtain ⟨zeros, rfl⟩ := h.eq_zeros
      exact ⟨[], zeros, .inl rfl, rfl⟩
    · obtain ⟨zeros, rfl⟩ := h.eq_zeros
      exact ⟨['+'], zeros, .inr rfl, rfl⟩

end Numeral

end Decimal

namespace Json

open Decimal

inductive Counts (n : Nat) : Json → Prop
  | quoted {text : List Char} : Numeral n text → Counts n (.string text)
  | signed {text : List Char} : Numeral n text → Counts n (.string ('+' :: text))
  | bare {literal : List Char} : Numeral n literal → Counts n (.number literal)

variable {value : Json} {body : Bytes}

theorem counts_string {n : Nat} {text : List Char} : Counts n (.string text) ↔ Form n text := by
  rw [form_iff_numeral]
  constructor
  · rintro (h | h)
    · exact .inl h
    · exact .inr ⟨_, rfl, h⟩
  · rintro (h | ⟨numeral, rfl, h⟩)
    · exact .quoted h
    · exact .signed h

theorem counts_number {n : Nat} {literal : List Char} (h : NumberText (Utf8.encode literal)) :
    Counts n (.number literal) ↔ Form n literal := by
  rw [form_iff_numeral]
  constructor
  · intro hcounts
    cases hcounts with
    | bare hn => exact .inl hn
  · rintro (hn | ⟨numeral, rfl, -⟩)
    · exact .bare hn
    · -- No literal begins with a plus sign.
      exact absurd (dropPlus_literal h) (List.cons_ne_self _ _).symm

theorem quoted?_eq_some (hs : Spelled value) {n : UInt64} :
    quoted? value = some n ↔ Counts n.toNat value := by
  cases value with
  | string text => rw [quoted?, readUInt64?_eq_some, counts_string]
  | number literal =>
    obtain ⟨text, ht⟩ := hs
    cases ht with
    | number _ hnumber => rw [quoted?, readUInt64?_eq_some, counts_number hnumber]
  | _ =>
    constructor
    · intro h
      contradiction
    · intro h
      cases h

theorem decode_quoted_eq_ok (h : Document value body) {n : UInt64} :
    decode readQuoted body = .ok n ↔ Counts n.toNat value := by
  rw [← quoted?_eq_some h.spelled, ← decode_means (means_quoted value) h, toOption_eq_some]

/-- What is no number, or too large a number, is refused. -/
theorem decode_quoted_eq_error (h : Document value body) :
    (∃ error, decode readQuoted body = .error error) ↔ ∀ n, Counts n value → UInt64.size ≤ n := by
  constructor
  · rintro ⟨error, herror⟩ n hn
    refine Nat.not_lt.mp fun hlt => ?_
    have hok : decode readQuoted body = .ok (UInt64.ofNat n) := by
      rwa [decode_quoted_eq_ok h, UInt64.toNat_ofNat_of_lt' hlt]
    rw [herror] at hok
    contradiction
  · intro hlarge
    cases hdecode : decode readQuoted body with
    | error error => exact ⟨error, rfl⟩
    | ok n =>
      have hle := hlarge n.toNat ((decode_quoted_eq_ok h).mp hdecode)
      exact absurd n.toNat_lt_size (Nat.not_lt.mpr hle)

/-- Digits need no escapes. -/
theorem quoted_digits (n : Nat) :
    quoted (Decimal.digits n) = '"' :: (Decimal.digits n ++ ['"']) :=
  quoted_plain fun c hc =>
    of_isDigit (P := fun c => escaped c = [c]) (by decide) (isDigit_digits n c hc)

theorem document_quoted (n : UInt64) : Document (ofQuoted n) (Utf8.encode (ofQuoted n).compact) :=
  document_spelled (spells_compact (.string _))

theorem document_number (n : UInt64) : Document (ofNumber n) (Utf8.encode (ofNumber n).compact) :=
  document_spelled (spells_compact (.number _ (numberText_of_integer (integerText_digits n.toNat))))

/-- A number is read from a text just if the value that it spells stands for this number, and
nothing is read just if the value stands for no number of 64 bits. A number is written as its
digits in quotes, without needless zeros, and is read from these and from the digits alone. -/
theorem decode_quoted_numbers (h : Document value body) :
    (∀ n : UInt64, decode readQuoted body = .ok n ↔ Counts n.toNat value) ∧
    ((∃ error, decode readQuoted body = .error error) ↔
      ∀ n, Counts n value → UInt64.size ≤ n) ∧
    ∀ n : UInt64, ∃ text, Canonical n.toNat text ∧
      (ofQuoted n).compact = '"' :: (text ++ ['"']) ∧ (ofNumber n).compact = text ∧
      decode readQuoted (Utf8.encode (ofQuoted n).compact) = .ok n ∧
      decode readQuoted (Utf8.encode (ofNumber n).compact) = .ok n := by
  refine ⟨fun _ => decode_quoted_eq_ok h, decode_quoted_eq_error h, fun n => ?_⟩
  have hcanonical : Canonical n.toNat (Decimal.digits n.toNat) := canonical_iff.mpr rfl
  refine ⟨_, hcanonical, ?_, ?_, ?_, ?_⟩
  · rw [ofQuoted, compact, quoted_digits]
  · rw [ofNumber, compact]
  · exact (decode_quoted_eq_ok (document_quoted n)).mpr (.quoted hcanonical.toNumeral)
  · exact (decode_quoted_eq_ok (document_number n)).mpr (.bare hcanonical.toNumeral)

/-- The largest number behind a plus sign and a zero, and the one after it. -/
theorem decode_quoted_numbers_limit :
    let largest : Json := .string "+018446744073709551615".toList
    let next : Json := .number (Decimal.digits UInt64.size)
    Document largest (Utf8.encode largest.compact) ∧
      decode readQuoted (Utf8.encode largest.compact) = .ok 18446744073709551615 ∧
      Document next (Utf8.encode next.compact) ∧
      ∃ error, decode readQuoted (Utf8.encode next.compact) = .error error := by
  intro largest next
  have hlargest : Document largest (Utf8.encode largest.compact) :=
    document_spelled (spells_compact (.string _))
  have hnext : Document next (Utf8.encode next.compact) :=
    document_spelled (spells_compact (.number _ (numberText_of_integer (integerText_digits _))))
  have hnumeral : Numeral 18446744073709551615 "018446744073709551615".toList :=
    ⟨by decide, List.all_eq_true.mp (by decide), by decide⟩
  refine ⟨hlargest, ((decode_quoted_numbers hlargest).1 _).mpr (.signed hnumeral), hnext, ?_⟩
  refine (decode_quoted_numbers hnext).2.1.mpr
    fun n (hn : Counts n (.number (Decimal.digits UInt64.size))) => ?_
  cases hn with
  | bare hnumeral =>
    rw [← hnumeral.sum, Decimal.digits, Nat.ofDigitChars_ten_toDigits]

end Json

end BlobRetrieval
