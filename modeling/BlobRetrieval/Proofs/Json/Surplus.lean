import BlobRetrieval.Proofs.Json.Numbers

/-!
# One element too many

An array that has to hold a known number of bytes is read up to its last byte, and then one more
element is tried. What is left of the text behind that element decides whether the array can
still be closed. So a surplus element goes unnoticed if it is no number of one byte and is
read to its end.
-/

set_option autoImplicit false

namespace BlobRetrieval.Json

open Reader

variable {α β : Type}

def Still (r : Reader α) : Prop :=
  ∃ result : Option α, ∀ text, (on r text).1.toOption = result ∧ (on r text).2 = text

def Local (r : Reader α) (text : Bytes) : Prop :=
  ∃ (result : Option α) (left : Bytes), Digits left ∧ ∀ rest, Apart rest →
    (on r (text ++ rest)).1.toOption = result ∧ (on r (text ++ rest)).2 = left ++ rest

theorem still_pure (a : α) : Still (pure a : Reader α) :=
  ⟨some a, fun _ => ⟨rfl, rfl⟩⟩

theorem still_failHere (cause : Cause) : Still (failHere cause : Reader α) :=
  ⟨none, fun _ => ⟨rfl, rfl⟩⟩

theorem still_failUnplaced (cause : Cause) : Still (failUnplaced cause : Reader α) :=
  ⟨none, fun _ => ⟨rfl, rfl⟩⟩

theorem still_finishFloat (s : Scaled) : Still (finishFloat s) := by
  unfold finishFloat
  split
  · exact still_pure _
  · exact still_failHere _

theorem still_wholeNumber (s : Scaled) : Still (wholeNumber s) := by
  unfold wholeNumber
  split
  · split
    · exact still_pure _
    · split
      · exact still_pure _
      · exact still_finishFloat s
  · exact still_finishFloat s

theorem still_checked {wanted : Wanted} {bound : Nat} (m : Number) :
    Still (checked wanted bound m) := by
  cases m with
  | unsigned n =>
    rw [checked]
    split
    · exact still_pure _
    · exact still_failUnplaced _
  | negative n => exact still_failUnplaced _
  | float bits => exact still_failUnplaced _

theorem Still.local {r : Reader α} (h : Still r) : Local r [] := by
  obtain ⟨result, h⟩ := h
  exact ⟨result, [], by simp [Digits], fun rest _ => h rest⟩

theorem local_congr {r s : Reader α} {text other : Bytes}
    (h : ∀ rest, Apart rest → on r (text ++ rest) = on s (other ++ rest)) (hs : Local s other) :
    Local r text := by
  obtain ⟨result, left, hd, hs⟩ := hs
  refine ⟨result, left, hd, fun rest hr => ?_⟩
  rw [h rest hr]
  exact hs rest hr

theorem local_bind {r : Reader α} {f : α → Reader β} {text : Bytes} (hr : Local r text)
    (hf : ∀ a, Still (f a)) : Local (r >>= f) text := by
  obtain ⟨result, left, hd, hr⟩ := hr
  cases result with
  | none =>
    refine ⟨none, left, hd, fun rest hrest => ?_⟩
    obtain ⟨hvalue, hleft⟩ := hr rest hrest
    rw [on_bind]
    generalize on r (text ++ rest) = p at hvalue hleft
    obtain ⟨outcome, behind⟩ := p
    cases outcome with
    | ok a => contradiction
    | error fault => exact ⟨rfl, hleft⟩
  | some a =>
    obtain ⟨found, hfound⟩ := hf a
    refine ⟨found, left, hd, fun rest hrest => ?_⟩
    obtain ⟨hvalue, hleft⟩ := hr rest hrest
    rw [on_bind_ok (Prod.ext (eq_ok_of_toOption hvalue) hleft)]
    exact hfound (left ++ rest)

theorem left_map (g : α → β) (r : Reader α) (text : Bytes) :
    (on (g <$> r) text).2 = (on r text).2 := by
  rw [map_eq_pure_bind, on_bind]
  generalize on r text = p
  obtain ⟨result, left⟩ := p
  cases result <;> rfl

theorem local_placed {r : Reader α} {text : Bytes} (h : Local r text) : Local (placed r) text := by
  obtain ⟨result, left, hd, h⟩ := h
  refine ⟨result, left, hd, fun rest hr => ?_⟩
  rw [(on_placed r _).1, (on_placed r _).2]
  exact h rest hr

theorem mem_of_exponentDigits {value : Nat} {text left : Bytes}
    (h : exponentDigits value text = .error left) : ∀ b ∈ left, b ∈ text := by
  induction text generalizing value with
  | nil => contradiction
  | cons c text ih =>
    rw [exponentDigits] at h
    split at h
    · exact fun b hb => List.mem_cons_of_mem c (ih h b hb)
    · rw [← Except.error.inj h]
      exact fun b hb => List.mem_cons_of_mem c hb

def finishExponent (s : Scaled) (positive : Bool) : Except Bytes Nat → Reader Number
  | .ok n => finishFloat { s with exponent := s.exponent + (if positive then (n : Int) else -n) }
  | .error left =>
    if s.significand = 0 || !positive then
      pure (.float (if s.negative then (-0.0 : Float) else 0.0).toBits)
    else do
      modify (left ++ ·)
      failHere .numberTooLarge

/-- Up to the digits of the exponent the reader does the same whatever follows. -/
theorem on_exponent {letter : UInt8} {sign ds : Bytes}
    (hs : sign = [] ∨ sign = [43] ∨ sign = [45]) (hne : ds ≠ []) (hd : Digits ds) (s : Scaled) :
    ∃ positive, ∀ rest, Apart rest → on (exponent s) (letter :: (sign ++ ds) ++ rest) =
      on (finishExponent s positive (exponentDigits 0 ds)) rest := by
  obtain ⟨positive, hsign⟩ := on_exponentSign hs hne hd
  obtain ⟨d, more, hfront⟩ := List.exists_cons_of_ne_nil hne
  have hdigit := hd d (by simp [hfront])
  refine ⟨positive, fun rest hr => ?_⟩
  have hpeek : on peek (ds ++ rest) = (.ok (some d), ds ++ rest) := by
    rw [hfront]
    rfl
  rw [exponent, List.cons_append]
  apply (on_bind_ok (on_advance _)).trans
  rw [List.tail_cons, on_bind_ok (hsign rest), on_bind_ok hpeek]
  simp only [if_pos hdigit]
  rw [on_bind_ok (on_digits hd hr.noDigit)]
  rfl

theorem local_exponent {letter : UInt8} {sign ds : Bytes}
    (hs : sign = [] ∨ sign = [43] ∨ sign = [45]) (hne : ds ≠ []) (hd : Digits ds) (s : Scaled) :
    Local (exponent s) (letter :: (sign ++ ds)) := by
  obtain ⟨positive, hread⟩ := on_exponent hs hne hd s
  cases hx : exponentDigits 0 ds with
  | ok n =>
    rw [hx] at hread
    exact local_congr hread (still_finishFloat _).local
  | error left =>
    rw [hx, finishExponent] at hread
    by_cases hsmall : (decide (s.significand = 0) || !positive) = true
    · rw [if_pos hsmall] at hread
      exact local_congr hread (still_pure _).local
    · rw [if_neg hsmall] at hread
      refine ⟨none, left, fun b hb => hd b (mem_of_exponentDigits hx b hb), fun rest hr => ?_⟩
      rw [hread rest hr]
      exact ⟨rfl, rfl⟩

theorem on_fractionEnd {rest : Bytes} (hr : Apart rest) (s : Scaled) :
    on (fractionEnd s) rest = on (finishFloat s) rest := by
  cases rest with
  | nil => rfl
  | cons b rest =>
    obtain ⟨-, -, he, hE⟩ := hr b rfl
    have hpeek : on peek (b :: rest) = (.ok (some b), b :: rest) := rfl
    rw [fractionEnd, on_bind_ok hpeek]
    split
    · rename_i h
      exact absurd (Option.some.inj h) he
    · rename_i h
      exact absurd (Option.some.inj h) hE
    · rfl

theorem local_fractionEnd {text : Bytes} (h : ExponentText text) (s : Scaled) :
    Local (fractionEnd s) text := by
  cases h with
  | none =>
    refine local_congr (fun rest hr => ?_) (still_finishFloat s).local
    exact on_fractionEnd hr s
  | some letter sign ds hletter hs hne hd =>
    rcases hletter with rfl | rfl
    · exact local_congr (fun rest hr => rfl) (local_exponent hs hne hd s)
    · exact local_congr (fun rest hr => rfl) (local_exponent hs hne hd s)

theorem local_fraction {ds text : Bytes} (hne : ds ≠ []) (hd : Digits ds) (h : ExponentText text)
    (s : Scaled) : Local (fraction s) (46 :: ds ++ text) := by
  obtain ⟨d, more, hfront⟩ := List.exists_cons_of_ne_nil hne
  refine local_congr (fun rest hr => ?_) (local_fractionEnd h
    { s with
      significand := (takeDigits s.significand 0 ds).1
      exponent := s.exponent - (takeDigits s.significand 0 ds).2.1 })
  rw [fraction, List.cons_append, List.cons_append, List.append_assoc]
  apply (on_bind_ok (on_advance _)).trans
  rw [List.tail_cons, on_bind_ok (on_digits hd (noDigit_exponent h hr)), hfront]

theorem local_afterInteger {fractional text : Bytes} (hf : FractionText fractional)
    (h : ExponentText text) (s : Scaled) : Local (afterInteger s) (fractional ++ text) := by
  cases hf with
  | some ds hne hd => exact local_congr (fun rest hr => rfl) (local_fraction hne hd h s)
  | none =>
    cases h with
    | none =>
      refine local_congr (fun rest hr => ?_) (still_wholeNumber s).local
      exact on_afterInteger hr s
    | some letter sign ds hletter hs hne hd =>
      rcases hletter with rfl | rfl
      · exact local_congr (fun rest hr => rfl) (local_exponent hs hne hd s)
      · exact local_congr (fun rest hr => rfl) (local_exponent hs hne hd s)

theorem local_readNumber {integer fractional text : Bytes} (hi : IntegerText integer)
    (hf : FractionText fractional) (h : ExponentText text) (negative : Bool) :
    Local (readNumber negative) (integer ++ (fractional ++ text)) := by
  refine local_congr (fun rest hr => ?_)
    (local_afterInteger hf h (integerPart negative integer))
  rw [List.append_assoc, on_readNumber_integer hi]
  cases hf with
  | some ds _ _ =>
    intro b hb
    cases hb
    rfl
  | none => exact noDigit_exponent h hr

theorem local_readOctet {literal : List Char} (h : NumberText (Utf8.encode literal)) :
    Local readOctet (Utf8.encode literal) := by
  generalize Utf8.encode literal = text at h
  obtain ⟨sign, integer, fractional, exponent, hs, hi, hf, he⟩ := h
  have hbody (negative : Bool) :
      Local (placed (readNumber negative >>= checked .octet 256))
        (integer ++ (fractional ++ exponent)) :=
    local_placed (local_bind (local_readNumber hi hf he negative) still_checked)
  have hbounded : Local (boundedNumber .octet 256)
      (sign ++ (integer ++ (fractional ++ exponent))) := by
    rcases hs with rfl | rfl
    · obtain ⟨b, bs, hfront, hdigit⟩ := integerText_front hi
      have hminus : b ≠ 45 := by
        rintro rfl
        contradiction
      refine local_congr (fun rest hr => ?_) (hbody false)
      rw [hfront, List.nil_append, List.cons_append, List.cons_append]
      refine (on_boundedNumber blanks_nil (.inr hdigit) _ _ _).trans ?_
      simp only [hminus, decide_false, if_false]
    · refine local_congr (fun rest hr => ?_) (hbody true)
      exact on_boundedNumber blanks_nil (.inl rfl) _ _ _
  rw [readOctet, map_eq_pure_bind]
  exact local_bind hbounded fun n => still_pure _

def octet? : Json → Option UInt8
  | .number literal =>
    (Decimal.readUInt64? literal).bind fun n =>
      if n.toNat < 256 then some (UInt8.ofNat n.toNat) else none
  | _ => none

def swallowed : Json → Bool
  | .null => true
  | .bool _ => true
  | .string _ => true
  | .number literal =>
    (octet? (.number literal)).isNone && (on readOctet (Utf8.encode literal)).2.isEmpty
  | .array _ => false
  | .object _ => false

theorem number_of_front {value : Json} {b : UInt8} {bs : Bytes} (h : Spells value (b :: bs))
    (hb : b = 45 ∨ isDigit b = true) : ∃ literal, value = .number literal := by
  cases value with
  | number literal => exact ⟨literal, rfl⟩
  | _ =>
    generalize htext : b :: bs = text at h
    cases h <;> cases htext <;> exact absurd hb (by decide)

theorem boundedNumber_ne_ok {before : Bytes} (hb : Blanks before) {b : UInt8}
    (hblank : isBlank b = false) (h : ¬(b = 45 ∨ isDigit b = true)) (bs : Bytes) {wanted : Wanted}
    {bound : Nat} (n : Nat) (left : Bytes) :
    on (boundedNumber wanted bound) (before ++ b :: bs) ≠ (.ok n, left) := by
  rw [boundedNumber, on_bind_ok (on_peekToken hb hblank _)]
  change on (if b = 45 ∨ isDigit b = true then _ else _) _ ≠ _
  rw [if_neg h]
  exact refuses_refuse wanted b _ n left

theorem means_octet (value : Json) : Means readOctet value (octet? value) := by
  cases value with
  | number literal =>
    have hvalue : octet? (.number literal) = ((Decimal.readUInt64? literal).bind fun n =>
        if n.toNat < 256 then some n.toNat else none).map UInt8.ofNat := by
      rw [octet?, Option.map_bind]
      congr 1
      funext n
      by_cases hn : n.toNat < 256
      · simp [hn]
      · simp [hn]
    rw [hvalue]
    exact means_map means_boundedNumber UInt8.ofNat
  | _ =>
    intro before text rest hb ht hr
    obtain ⟨b, bs, hfront, hopens⟩ := spells_front ht
    have hnumber : ¬(b = 45 ∨ isDigit b = true) := by
      intro h
      rw [hfront] at ht
      obtain ⟨literal, hliteral⟩ := number_of_front ht h
      contradiction
    rw [hfront, List.cons_append]
    exact gives_map (gives_none.mpr (boundedNumber_ne_ok hb hopens.1 hnumber _)) UInt8.ofNat

theorem left_readOctet {value : Json} {text rest : Bytes} (ht : Spells value text)
    (hr : Apart rest) (hn : octet? value = none) :
    if swallowed value = true then (on readOctet (text ++ rest)).2 = rest
    else ∃ b left, (on readOctet (text ++ rest)).2 = b :: left ∧ isBlank b = false ∧ b ≠ 93 := by
  cases ht with
  | null => exact rfl
  | true => exact rfl
  | false => exact rfl
  | number literal h =>
    obtain ⟨result, left, hd, hleft⟩ := local_readOctet h
    have halone : (on readOctet (Utf8.encode literal)).2 = left := by
      have hnil := (hleft [] (by simp [Apart])).2
      rwa [List.append_nil, List.append_nil] at hnil
    rw [swallowed, hn, halone, (hleft rest hr).2]
    cases left with
    | nil => simp
    | cons b left =>
      have hdigit := hd b List.mem_cons_self
      refine ⟨b, left ++ rest, rfl, (opens_digit hdigit).1, ?_⟩
      rintro rfl
      contradiction
  | string text body hbody =>
    have hscalar : on (scalar 34) (34 :: (body ++ 34 :: rest)) = (.ok (.string text), rest) := by
      apply (on_bind_ok (on_advance _)).trans
      exact (on_bind_ok (on_stringText hbody rest)).trans rfl
    have hrefused : (on (refuse .octet 34 : Reader Nat) (34 :: (body ++ 34 :: rest))).2 = rest := by
      refine (on_placed _ _).1.trans ?_
      change (on (scalar 34 >>= fun found => failUnplaced (.wrongType found .octet)) _).2 = rest
      rw [on_bind_ok hscalar]
      rfl
    rw [swallowed, if_pos rfl, readOctet, left_map, List.cons_append, List.append_assoc]
    exact hrefused
  | array items last hl hs ht => exact ⟨91, _, rfl, rfl, by decide⟩
  | object members last hl hs hk ht => exact ⟨123, _, rfl, rfl, by decide⟩

end BlobRetrieval.Json
