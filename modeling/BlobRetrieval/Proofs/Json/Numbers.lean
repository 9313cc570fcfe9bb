import BlobRetrieval.Proofs.Json.Integers
import BlobRetrieval.Proofs.Json.Meaning
import BlobRetrieval.Proofs.Json.Strings

/-!
# Reading any number

What the readers of numbers make of a number text. It is read as an unsigned integer where it
is nothing but digits and fits 64 bits, just as the same digits in quotes are. Whatever it is
read as, the text behind it makes no difference, and at most digits of its exponent are left.
-/

set_option autoImplicit false

namespace BlobRetrieval.Json

open Reader

variable {α β : Type}

def NoInteger (r : Reader Number) : Prop :=
  ∀ text n left, on r text ≠ (.ok (.unsigned n), left)

theorem noInteger_bind {r : Reader α} {f : α → Reader Number} (hf : ∀ a, NoInteger (f a)) :
    NoInteger (r >>= f) := by
  intro text n left h
  obtain ⟨a, middle, -, hn⟩ := on_bind_eq_ok h
  exact hf a middle n left hn

theorem Refuses.noInteger {r : Reader Number} (h : Refuses r) : NoInteger r :=
  fun text n left => h text (.unsigned n) left

theorem noInteger_float (bits : UInt64) : NoInteger (pure (.float bits)) := by
  intro text n left h
  rw [on_pure] at h
  simp at h

theorem noInteger_finishFloat (s : Scaled) : NoInteger (finishFloat s) := by
  unfold finishFloat
  split
  · exact noInteger_float _
  · exact (refuses_failHere _).noInteger

theorem noInteger_exponent (s : Scaled) : NoInteger (exponent s) := by
  refine noInteger_bind fun _ => noInteger_bind fun positive => noInteger_bind fun next => ?_
  split
  · exact (refuses_failHere _).noInteger
  split
  · refine noInteger_bind fun ds => ?_
    split
    · exact noInteger_finishFloat _
    · split
      · exact noInteger_float _
      · exact noInteger_bind fun _ => (refuses_failHere _).noInteger
  · exact noInteger_bind fun _ => (refuses_failHere _).noInteger

theorem noInteger_fractionEnd (s : Scaled) : NoInteger (fractionEnd s) := by
  refine noInteger_bind fun next => ?_
  split
  · exact noInteger_exponent s
  · exact noInteger_exponent s
  · exact noInteger_finishFloat s

theorem noInteger_fraction (s : Scaled) : NoInteger (fraction s) := by
  refine noInteger_bind fun _ => noInteger_bind fun ds => ?_
  split
  · refine noInteger_bind fun next => ?_
    split
    · exact (refuses_failNext _).noInteger
    · exact (refuses_failNext _).noInteger
  · exact noInteger_fractionEnd _

theorem noInteger_wholeNumber {s : Scaled} (h : s.negative = true ∨ s.exponent ≠ 0) :
    NoInteger (wholeNumber s) := by
  unfold wholeNumber
  split
  · rename_i hzero
    have hnegative : s.negative = true := h.resolve_right fun hne => hne hzero
    simp only [hnegative, Bool.not_true, Bool.false_eq_true, if_false]
    split
    · intro text n left hn
      rw [on_pure] at hn
      simp at hn
    · exact noInteger_finishFloat s
  · exact noInteger_finishFloat s

theorem noInteger_afterInteger {s : Scaled} (h : s.negative = true ∨ s.exponent ≠ 0) :
    NoInteger (afterInteger s) := by
  refine noInteger_bind fun next => ?_
  split
  · exact noInteger_fraction s
  · exact noInteger_exponent s
  · exact noInteger_exponent s
  · exact noInteger_wholeNumber h

theorem noInteger_negative : NoInteger (readNumber true) := by
  have hafter (significand : Nat) (power : Int) :
      NoInteger (afterInteger ⟨true, significand, power⟩) :=
    noInteger_afterInteger (.inl rfl)
  refine noInteger_bind fun next => ?_
  split
  · exact (refuses_failHere _).noInteger
  · refine noInteger_bind fun _ => noInteger_bind fun next => ?_
    split
    · split
      · exact (refuses_failNext _).noInteger
      · exact hafter 0 0
    · exact hafter 0 0
  · split
    · exact noInteger_bind fun ds => hafter _ _
    · exact noInteger_bind fun _ => (refuses_failHere _).noInteger

theorem isDigit_of_encodeChar {c : Char} (h : ∀ b ∈ String.utf8EncodeChar c, isDigit b = true) :
    c.isDigit = true := by
  have hdigit {n : Nat} (hn : n < 256) (hb : isDigit (UInt8.ofNat n) = true) :
      48 ≤ n ∧ n ≤ 57 := by
    have hvalue : (UInt8.ofNat n).toNat = n := by rw [UInt8.toNat_ofNat']; omega
    simp only [isDigit, Bool.and_eq_true, decide_eq_true_eq, UInt8.le_iff_toNat_le, hvalue] at hb
    exact hb
  have he : c.val.toNat = c.toNat := rfl
  simp only [String.utf8EncodeChar, he] at h
  split at h
  · have hrange := hdigit (by omega) (h _ List.mem_cons_self)
    simpa [Char.isDigit, UInt32.le_iff_toNat_le] using hrange
  · split at h
    · have hrange := hdigit (by omega) (h _ List.mem_cons_self)
      omega
    · split at h
      · have hrange := hdigit (by omega) (h _ List.mem_cons_self)
        omega
      · have hrange := hdigit (by omega) (h _ List.mem_cons_self)
        omega

theorem isDigit_of_encode {text : List Char} (h : Digits (Utf8.encode text)) :
    ∀ c ∈ text, c.isDigit = true :=
  fun c hc => isDigit_of_encodeChar fun b hb => h b (List.mem_flatMap.mpr ⟨c, hc, hb⟩)

/-- The digits that are taken from a number are those that are read below the same bound. -/
theorem extend?_takeDigits {text : List Char} (hd : ∀ c ∈ text, c.isDigit = true)
    (value taken : Nat) :
    Decimal.extend? (Nat.pow 2 64) value text =
      if (takeDigits value taken (Utf8.encode text)).2.2 = [] then
        some (takeDigits value taken (Utf8.encode text)).1
      else none := by
  induction text generalizing value taken with
  | nil => rfl
  | cons c text ih =>
    obtain ⟨hencode, -, hvalue⟩ := encodeChar_digit (hd c List.mem_cons_self)
    have hc : Decimal.digit? c = some (c.toNat - 48) := if_pos (hd c List.mem_cons_self)
    have hrest : Utf8.encode (c :: text) = UInt8.ofNat c.toNat :: Utf8.encode text := by
      rw [Utf8.encode, List.flatMap_cons, hencode]
      rfl
    rw [Decimal.extend?, hc, hrest, takeDigits, hvalue]
    by_cases hlt : value * 10 + (c.toNat - 48) < Nat.pow 2 64
    · simp only [if_pos hlt]
      exact ih (fun d hm => hd d (List.mem_cons_of_mem c hm)) _ _
    · simp [if_neg hlt]

theorem integerText_of_digits {text : Bytes} (h : NumberText text) (hd : Digits text) :
    IntegerText text := by
  obtain ⟨sign, integer, fraction, exponent, hs, hi, hf, he⟩ := h
  have hsign : sign = [] := by
    rcases hs with rfl | rfl
    · rfl
    · exact absurd (hd 45 (by simp)) (by decide)
  have hfraction : fraction = [] := by
    cases hf with
    | none => rfl
    | some ds _ _ => exact absurd (hd 46 (by simp)) (by decide)
  have hexponent : exponent = [] := by
    cases he with
    | none => rfl
    | some letter s ds hletter _ _ _ =>
      have hl := hd letter (by simp)
      rcases hletter with rfl | rfl <;> exact absurd hl (by decide)
  rw [hsign, hfraction, hexponent, List.nil_append, List.append_nil, List.append_nil]
  exact hi

theorem numberText_front {text : Bytes} (h : NumberText text) :
    ∃ b bs, text = b :: bs ∧ (b = 45 ∨ isDigit b = true) := by
  obtain ⟨sign, integer, fraction, exponent, hs, hi, -, -⟩ := h
  rcases hs with rfl | rfl
  · obtain ⟨b, bs, hfront, hb⟩ := integerText_front hi
    exact ⟨b, bs ++ (fraction ++ exponent), by rw [hfront]; rfl, .inr hb⟩
  · exact ⟨45, _, rfl, .inl rfl⟩

/-- The front of a number is that of no array and no object. -/
theorem numberText_scalar {text : Bytes} (h : NumberText text) :
    ∃ b bs, text = b :: bs ∧ isBlank b = false ∧ b ≠ 91 ∧ b ≠ 123 := by
  obtain ⟨b, bs, hfront, hb⟩ := numberText_front h
  have hne (c : UInt8) (hc : ¬ (c = 45 ∨ isDigit c = true)) : b ≠ c := by
    rintro rfl
    exact hc hb
  refine ⟨b, bs, hfront, ?_, hne 91 (by decide), hne 123 (by decide)⟩
  rcases hb with rfl | hdigit
  · rfl
  · exact (opens_digit hdigit).1

/-- No plus sign stands in front of a number. -/
theorem dropPlus_literal {literal : List Char} (h : NumberText (Utf8.encode literal)) :
    Decimal.dropPlus literal = literal := by
  unfold Decimal.dropPlus
  split
  · rename_i rest
    obtain ⟨b, bs, hfront, hb⟩ := numberText_front h
    have hplus : b = 43 := by
      rw [Utf8.encode, List.flatMap_cons] at hfront
      exact (List.cons.inj hfront).1.symm
    rw [hplus] at hb
    exact absurd hb (by decide)
  · rfl

theorem readUInt64?_literal {literal : List Char} (h : NumberText (Utf8.encode literal)) :
    Decimal.readUInt64? literal =
      (Decimal.extend? (Nat.pow 2 64) 0 literal).map UInt64.ofNat := by
  rw [Decimal.readUInt64?, Decimal.read?, dropPlus_literal h]
  split
  · exact absurd h (fun h => by
      obtain ⟨b, bs, hfront, -⟩ := numberText_front h
      rw [Utf8.encode, List.flatMap_nil] at hfront
      contradiction)
  · rfl

theorem on_exponentSign {sign ds : Bytes} (hs : sign = [] ∨ sign = [43] ∨ sign = [45])
    (hne : ds ≠ []) (hd : Digits ds) : ∃ positive, ∀ rest,
    on exponentSign (sign ++ ds ++ rest) = (.ok positive, ds ++ rest) := by
  obtain ⟨d, more, rfl⟩ := List.exists_cons_of_ne_nil hne
  have hdigit := hd d List.mem_cons_self
  rcases hs with rfl | rfl | rfl
  · refine ⟨true, fun rest => ?_⟩
    have hpeek : on peek ([] ++ d :: more ++ rest) = (.ok (some d), d :: (more ++ rest)) := rfl
    rw [exponentSign, on_bind_ok hpeek]
    split
    · rename_i h
      rw [Option.some.inj h] at hdigit
      contradiction
    · rename_i h
      rw [Option.some.inj h] at hdigit
      contradiction
    · rfl
  · exact ⟨true, fun rest => rfl⟩
  · exact ⟨false, fun rest => rfl⟩

theorem noDigit_exponent {text rest : Bytes} (h : ExponentText text) (hr : Apart rest) :
    NoDigit (text ++ rest) := by
  cases h with
  | none => exact hr.noDigit
  | some letter sign ds hletter _ _ _ =>
    intro b hb
    cases hb
    rcases hletter with rfl | rfl <;> rfl

section Literal

variable {literal : List Char} (h : NumberText (Utf8.encode literal)) {rest : Bytes}
  (hr : Apart rest)

include h hr

theorem on_readNumber_unsigned {n : UInt64} (hn : Decimal.readUInt64? literal = some n) :
    IntegerText (Utf8.encode literal) ∧
      on (readNumber false) (Utf8.encode literal ++ rest) = (.ok (.unsigned n), rest) := by
  rw [readUInt64?_literal h] at hn
  obtain ⟨value, hvalue, hn⟩ := Option.map_eq_some_iff.mp hn
  have hd := Decimal.isDigit_of_extend? hvalue
  have hi := integerText_of_digits h (digits_encode hd)
  rw [extend?_takeDigits hd 0 0] at hvalue
  split at hvalue
  · rename_i hleft
    rw [on_readNumber_integer hi hr.noDigit, on_afterInteger hr, integerPart, hleft,
      Option.some.inj hvalue, ← hn]
    exact ⟨hi, rfl⟩
  · contradiction

/-- A number behind no sign that is read as an unsigned integer is nothing but digits. -/
theorem readNumber_ne_unsigned (hn : Decimal.readUInt64? literal = none) {b : UInt8} {bs : Bytes}
    (hfront : Utf8.encode literal = b :: bs) (hb : b ≠ 45) (n : UInt64) (left : Bytes) :
    on (readNumber false) (b :: bs ++ rest) ≠ (.ok (.unsigned n), left) := by
  rw [readUInt64?_literal h, Option.map_eq_none_iff] at hn
  rw [← hfront]
  generalize htext : Utf8.encode literal = text at h hfront
  obtain ⟨sign, integer, fraction, exponent, hs, hi, hf, he⟩ := h
  have hsign : sign = [] := by
    rcases hs with rfl | rfl
    · rfl
    · exact absurd (List.cons.inj hfront).1.symm hb
  rw [hsign, List.nil_append, List.append_assoc, List.append_assoc]
  -- A fraction or an exponent makes it a float, and so does a digit too many.
  cases hf with
  | some ds _ _ =>
    rw [on_readNumber_integer hi (by intro c hc; cases hc; rfl)]
    exact noInteger_fraction _ _ n left
  | none =>
    cases he with
    | some letter s ds hletter _ _ _ =>
      rcases hletter with rfl | rfl
      · rw [on_readNumber_integer hi (by intro c hc; cases hc; rfl)]
        exact noInteger_exponent _ _ n left
      · rw [on_readNumber_integer hi (by intro c hc; cases hc; rfl)]
        exact noInteger_exponent _ _ n left
    | none =>
      rw [hsign, List.nil_append, List.append_nil, List.append_nil] at htext
      have hd : ∀ c ∈ literal, c.isDigit = true :=
        isDigit_of_encode (by rw [htext]; exact digits_integer hi)
      have hleft : (takeDigits 0 0 integer).2.2 ≠ [] := by
        rw [extend?_takeDigits hd 0 0, htext] at hn
        intro hnil
        simp [hnil] at hn
      have hexponent : (integerPart false integer).exponent ≠ 0 := by
        rw [integerPart]
        simp [hleft]
      rw [List.nil_append, List.nil_append, on_readNumber_integer hi hr.noDigit,
        on_afterInteger hr]
      exact noInteger_wholeNumber (.inr hexponent) rest n left

/-- What follows a number goes by the unsigned integer that the number is read as. -/
theorem gives_readNumber {f : Number → Reader α} {g : UInt64 → Option α} {b : UInt8} {bs : Bytes}
    (hfront : Utf8.encode literal = b :: bs) (hf : ∀ n, Gives (f (.unsigned n)) rest (g n) rest)
    (hother : ∀ m, (∀ n, m ≠ .unsigned n) → Refuses (f m)) :
    Gives (readNumber (b = 45) >>= f) (if b = 45 then bs ++ rest else b :: (bs ++ rest))
      ((Decimal.readUInt64? literal).bind g) rest := by
  have hrefused {r : Reader Number} {text : Bytes}
      (hn : ∀ n left, on r text ≠ (.ok (.unsigned n), left)) :
      Gives (r >>= f) text none rest := by
    refine gives_none.mpr fun a left hread => ?_
    obtain ⟨m, middle, hm, ha⟩ := on_bind_eq_ok hread
    exact hother m (fun n hmn => hn n middle (by rw [hm, hmn])) middle a left ha
  cases hn : Decimal.readUInt64? literal with
  | none =>
    by_cases hb : b = 45
    · simp only [hb, decide_true]
      exact hrefused fun n left => noInteger_negative _ n left
    · simp only [hb, decide_false]
      exact hrefused fun n left => readNumber_ne_unsigned h hr hn hfront hb n left
  | some n =>
    obtain ⟨hi, hread⟩ := on_readNumber_unsigned h hr hn
    obtain ⟨c, cs, hdigit, hc⟩ := integerText_front hi
    have hb : b ≠ 45 := by
      rw [hfront] at hdigit
      rw [(List.cons.inj hdigit).1]
      rintro rfl
      exact absurd hc (by decide)
    rw [hfront] at hread
    simp only [hb, decide_false, if_false]
    exact gives_after hread (hf n)

end Literal

/-- A value that begins with a minus sign or a digit is read as a number. -/
theorem on_startValue_number {before : Bytes} (hb : Blanks before) {b : UInt8}
    (h : b = 45 ∨ isDigit b = true) (bs : Bytes) :
    on startValue (before ++ b :: bs) =
      on (do return .number (← readNumber (b = 45))) (if b = 45 then bs else b :: bs) := by
  by_cases hminus : b = 45
  · rw [hminus, startValue, on_bind_ok (on_peekToken hb rfl bs)]
    rfl
  · have hdigit : isDigit b = true := h.resolve_left hminus
    rw [on_startValue_digit hb hdigit, on_scalar_digit hdigit]
    simp only [hminus, decide_false, if_false]

/-- A reader that starts a value goes by the unsigned integer that a number is read as. -/
theorem means_number {literal : List Char} {finish : Found → Reader α} {g : UInt64 → Option α}
    (hf : ∀ n rest, Gives (finish (.number (.unsigned n))) rest (g n) rest)
    (hother : ∀ m, (∀ n, m ≠ .unsigned n) → Refuses (finish (.number m))) :
    Means (placed (startValue >>= finish)) (.number literal)
      ((Decimal.readUInt64? literal).bind g) := by
  intro before text rest hb ht hr
  cases ht with
  | number _ h =>
    obtain ⟨b, bs, hfront, hnumber⟩ := numberText_front h
    have hgives := gives_readNumber h hr (f := fun m => finish (.number m)) hfront
      (fun n => hf n rest) hother
    have hstart := on_startValue_number hb hnumber (bs ++ rest)
    rw [hfront, List.cons_append]
    apply gives_placed
    rw [gives_bind_congr hstart, bind_assoc]
    simp only [pure_bind]
    exact hgives

def checked (wanted : Wanted) (bound : Nat) : Number → Reader Nat
  | .unsigned n =>
    if n.toNat < bound then pure n.toNat
    else failUnplaced (.wrongValue (.number (.unsigned n)) wanted)
  | .negative n => failUnplaced (.wrongValue (.number (.negative n)) wanted)
  | .float f => failUnplaced (.wrongType (.number (.float f)) wanted)

theorem on_boundedNumber {before : Bytes} (hb : Blanks before) {b : UInt8}
    (h : b = 45 ∨ isDigit b = true) (bs : Bytes) (wanted : Wanted) (bound : Nat) :
    on (boundedNumber wanted bound) (before ++ b :: bs) =
      on (placed (readNumber (b = 45) >>= checked wanted bound))
        (if b = 45 then bs else b :: bs) := by
  have hblank : isBlank b = false := by
    rcases h with rfl | hdigit
    · rfl
    · exact (opens_digit hdigit).1
  rw [boundedNumber, on_bind_ok (on_peekToken hb hblank _)]
  change on (if b = 45 ∨ isDigit b = true then _ else _) _ = _
  rw [if_pos h]
  by_cases hminus : b = 45
  · rw [hminus]
    rfl
  · simp only [hminus, if_false, decide_false]
    rfl

theorem means_boundedNumber {wanted : Wanted} {bound : Nat} {literal : List Char} :
    Means (boundedNumber wanted bound) (.number literal)
      ((Decimal.readUInt64? literal).bind fun n =>
        if n.toNat < bound then some n.toNat else none) := by
  intro before text rest hb ht hr
  cases ht with
  | number _ h =>
    obtain ⟨b, bs, hfront, hnumber⟩ := numberText_front h
    have hgives := gives_readNumber h hr (f := checked wanted bound)
      (g := fun n => if n.toNat < bound then some n.toNat else none) hfront
      (fun n => by
        rw [checked]
        split
        · exact gives_pure _ _
        · exact (refuses_failUnplaced _).gives _ _)
      (fun m hm => by
        cases m with
        | unsigned n => exact absurd rfl (hm n)
        | negative n => exact refuses_failUnplaced _
        | float bits => exact refuses_failUnplaced _)
    have hread := on_boundedNumber hb hnumber (bs ++ rest) wanted bound
    rw [hfront, List.cons_append]
    exact (gives_congr hread).mpr (gives_placed hgives)

end BlobRetrieval.Json
