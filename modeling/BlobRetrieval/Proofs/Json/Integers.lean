import BlobRetrieval.Proofs.Json.Reading
import BlobRetrieval.Proofs.Text.Decimal
import BlobRetrieval.Proofs.Text.Utf8

/-!
# Reading integers

The digits of a number are an integer text, and the grammar allows it no needless zero in
front. The reader of numbers takes the integer part up to where the digits end.
-/

set_option autoImplicit false

namespace BlobRetrieval.Json

open Reader

theorem encodeChar_digit {c : Char} (h : c.isDigit = true) :
    String.utf8EncodeChar c = [UInt8.ofNat c.toNat] ∧ isDigit (UInt8.ofNat c.toNat) = true ∧
      digitValue (UInt8.ofNat c.toNat) = c.toNat - 48 :=
  Decimal.of_isDigit (P := fun c => String.utf8EncodeChar c = [UInt8.ofNat c.toNat] ∧
    isDigit (UInt8.ofNat c.toNat) = true ∧ digitValue (UInt8.ofNat c.toNat) = c.toNat - 48)
    (by decide) h

section Digits

variable {text : List Char} (hd : ∀ c ∈ text, c.isDigit = true)

include hd

theorem digits_encode : Digits (Utf8.encode text) := by
  intro b hb
  obtain ⟨c, hc, hb⟩ := List.mem_flatMap.mp hb
  obtain ⟨hencode, hdigit, -⟩ := encodeChar_digit (hd c hc)
  rw [hencode, List.mem_singleton] at hb
  rw [hb]
  exact hdigit

end Digits

theorem integerText_digits (n : Nat) : IntegerText (Utf8.encode (Decimal.digits n)) := by
  rcases Nat.eq_zero_or_pos n with rfl | hn
  · exact .zero
  · obtain ⟨c, rest, hfront, hc⟩ := Decimal.digits_of_pos hn
    have hd := Decimal.isDigit_digits n
    rw [hfront] at hd ⊢
    have hrange := Decimal.toNat_of_isDigit (hd c List.mem_cons_self)
    obtain ⟨hencode, hdigit, hvalue⟩ := encodeChar_digit (hd c List.mem_cons_self)
    have hrest := digits_encode fun d hm => hd d (List.mem_cons_of_mem c hm)
    rw [Utf8.encode, List.flatMap_cons, hencode, List.singleton_append]
    refine .digits _ _ hdigit ?_ hrest
    intro h
    have hzero : digitValue 48 = 0 := by decide
    have hchar : '0'.toNat = 48 := by decide
    rw [h] at hvalue
    exact hc (Char.toNat_inj.mp (by omega))

theorem numberText_of_integer {text : Bytes} (h : IntegerText text) : NumberText text := by
  have hnumber := NumberText.mk [] text [] [] (.inl rfl) h .none .none
  rwa [List.append_nil, List.append_nil] at hnumber

def NoDigit (text : Bytes) : Prop :=
  ∀ b ∈ text.head?, isDigit b = false

theorem Apart.noDigit {text : Bytes} (h : Apart text) : NoDigit text :=
  fun b hb => (h b hb).1

theorem on_digits {text more : Bytes} (hd : Digits text) (hm : NoDigit more) :
    on digits (text ++ more) = (.ok text, more) := by
  have htake : more.takeWhile isDigit = [] := by
    cases more with
    | nil => rfl
    | cons b more => exact List.takeWhile_cons_of_neg (by rw [hm b rfl]; decide)
  have hdrop : more.dropWhile isDigit = more := by
    cases more with
    | nil => rfl
    | cons b more => exact List.dropWhile_cons_of_neg (by rw [hm b rfl]; decide)
  show (Except.ok ((text ++ more).takeWhile isDigit), (text ++ more).dropWhile isDigit) = _
  rw [List.takeWhile_append_of_pos hd, List.dropWhile_append_of_pos hd, htake, hdrop,
    List.append_nil]

def integerPart (negative : Bool) (integer : Bytes) : Scaled :=
  ⟨negative, (takeDigits 0 0 integer).1, (takeDigits 0 0 integer).2.2.length⟩

theorem digits_integer {integer : Bytes} (h : IntegerText integer) : Digits integer := by
  cases h with
  | zero => simp [Digits, isDigit]
  | digits b rest hb _ hd =>
    intro c hc
    rcases List.mem_cons.mp hc with rfl | hc
    · exact hb
    · exact hd c hc

/-- The integer part of a number ends where the digits end. -/
theorem on_readNumber_integer {integer more : Bytes} (hi : IntegerText integer)
    (hm : NoDigit more) (negative : Bool) :
    on (readNumber negative) (integer ++ more) =
      on (afterInteger (integerPart negative integer)) more := by
  have hdigits := digits_integer hi
  cases hi with
  | zero =>
    have hpeek : on peek ([48] ++ more) = (.ok (some 48), 48 :: more) := rfl
    rw [readNumber, on_bind_ok hpeek]
    change on (advance >>= fun _ => peek >>= _) (48 :: more) = _
    rw [on_bind_ok (on_advance (48 :: more)), List.tail_cons]
    cases more with
    | nil => rfl
    | cons b more =>
      change on (if isDigit b then failNext .badNumber else afterInteger ⟨negative, 0, 0⟩) _ = _
      rw [hm b rfl]
      rfl
  | digits b text hb hzero hd =>
    have hpeek : on peek (b :: text ++ more) = (.ok (some b), b :: text ++ more) := rfl
    rw [readNumber, on_bind_ok hpeek]
    split
    · contradiction
    · rename_i h
      exact absurd (Option.some.inj h) hzero
    · rename_i h
      rw [← Option.some.inj h, if_pos hb, on_bind_ok (on_digits hdigits hm)]
      rfl

section Number

variable {rest : Bytes} (hr : Apart rest)

include hr

/-- Where neither a fraction nor an exponent follows, the number is at its end. -/
theorem on_afterInteger (s : Scaled) : on (afterInteger s) rest = on (wholeNumber s) rest := by
  cases rest with
  | nil => rfl
  | cons b rest =>
    obtain ⟨-, hpoint, he, hE⟩ := hr b rfl
    have hpeek : on peek (b :: rest) = (.ok (some b), b :: rest) := rfl
    rw [afterInteger, on_bind_ok hpeek]
    split
    · rename_i h
      exact absurd (Option.some.inj h) hpoint
    · rename_i h
      exact absurd (Option.some.inj h) he
    · rename_i h
      exact absurd (Option.some.inj h) hE
    · rfl

end Number

theorem on_scalar_digit {b : UInt8} (h : isDigit b = true) (text : Bytes) :
    on (scalar b) text = on (do return .number (← readNumber false)) text := by
  have hne : ∀ c : UInt8, isDigit c = false → b ≠ c := by
    rintro c hc rfl
    rw [h] at hc
    cases hc
  rw [scalar, if_neg (hne 110 rfl), if_neg (hne 116 rfl), if_neg (hne 102 rfl),
    if_neg (hne 34 rfl), if_neg (hne 45 rfl), if_pos h]

theorem on_startValue_digit {before : Bytes} (hb : Blanks before) {b : UInt8}
    (h : isDigit b = true) (bs : Bytes) :
    on startValue (before ++ b :: bs) = on (scalar b) (b :: bs) := by
  rw [startValue, on_bind_ok (on_peekToken hb (opens_digit h).1 bs)]
  split
  · rename_i hn
    cases hn
  · rename_i hn
    cases hn
    cases h
  · rename_i hn
    cases hn
    cases h
  · rename_i hn
    cases hn
    rfl

theorem integerText_front {text : Bytes} (h : IntegerText text) :
    ∃ b bs, text = b :: bs ∧ isDigit b = true := by
  cases h with
  | zero => exact ⟨48, [], rfl, rfl⟩
  | digits b bs hb _ _ => exact ⟨b, bs, rfl, hb⟩

end BlobRetrieval.Json
