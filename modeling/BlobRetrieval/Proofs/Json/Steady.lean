import Mathlib.Data.List.TakeWhile
import BlobRetrieval.Proofs.Json.Reading

/-!
# Readers that stop in front of the end

A reader that stops in front of the end of a text has seen all that it stops for, so it
does the same on every longer text. That holds of the readers of numbers, strings and
punctuation, faults included: also where a fault is not reported, what is left behind it
is read on.
-/

set_option autoImplicit false

namespace BlobRetrieval.Json

open Reader

variable {α β : Type}

structure Steady (r : Reader α) : Prop where
  nothing : (on r []).2 = []
  extend : ∀ text more, (on r text).2 ≠ [] →
    (on r (text ++ more)).2 = (on r text).2 ++ more ∧
      (on r (text ++ more)).1.toOption = (on r text).1.toOption

theorem eq_ok_of_toOption {ε : Type} {result : Except ε α} {a : α}
    (h : result.toOption = some a) : result = .ok a := by
  cases result with
  | ok b => exact congrArg Except.ok (Option.some.inj h)
  | error error => cases h

theorem toOption_eq_some {ε : Type} {result : Except ε α} {a : α} :
    result.toOption = some a ↔ result = .ok a := by
  constructor
  · exact eq_ok_of_toOption
  · rintro rfl
    rfl

theorem steady_pure (a : α) : Steady (pure a : Reader α) where
  nothing := rfl
  extend _ _ _ := ⟨rfl, rfl⟩

theorem steady_failHere (cause : Cause) : Steady (failHere cause : Reader α) where
  nothing := rfl
  extend _ _ _ := ⟨rfl, rfl⟩

theorem steady_failNext (cause : Cause) : Steady (failNext cause : Reader α) where
  nothing := rfl
  extend _ _ _ := ⟨rfl, rfl⟩

theorem steady_failUnplaced (cause : Cause) : Steady (failUnplaced cause : Reader α) where
  nothing := rfl
  extend _ _ _ := ⟨rfl, rfl⟩

theorem steady_bind {r : Reader α} {f : α → Reader β} (hr : Steady r)
    (hf : ∀ a, Steady (f a)) : Steady (r >>= f) where
  nothing := by
    have hn := hr.nothing
    rw [on_bind]
    generalize on r [] = p at hn
    obtain ⟨result, rest⟩ := p
    cases hn
    cases result with
    | ok a => exact (hf a).nothing
    | error fault => rfl
  extend text more hne := by
    have hlonger := hr.extend text more
    rw [on_bind] at hne
    rw [on_bind r f text]
    generalize on r text = p at hne hlonger
    obtain ⟨result, middle⟩ := p
    cases result with
    | ok a =>
      -- What `f a` leaves cannot be left of nothing, so `r` stopped in front of the end.
      have hm : middle ≠ [] := by
        rintro rfl
        exact hne (hf a).nothing
      obtain ⟨hrest, hvalue⟩ := hlonger hm
      rw [on_bind_ok (Prod.ext (eq_ok_of_toOption hvalue) hrest)]
      exact (hf a).extend middle more hne
    | error fault =>
      obtain ⟨hrest, hvalue⟩ := hlonger hne
      rw [on_bind]
      generalize on r (text ++ more) = p at hrest hvalue
      obtain ⟨result, rest⟩ := p
      cases result with
      | ok a => cases hvalue
      | error other => exact ⟨hrest, rfl⟩

theorem steady_map {g : α → β} {r : Reader α} (hr : Steady r) : Steady (g <$> r) := by
  rw [map_eq_pure_bind]
  exact steady_bind hr fun a => steady_pure (g a)

/-- Placing a fault changes nothing else. -/
theorem on_placed (r : Reader α) (text : Bytes) :
    (on (placed r) text).2 = (on r text).2 ∧
      (on (placed r) text).1.toOption = (on r text).1.toOption := by
  rw [placed, on_bind, on_attempt]
  generalize on r text = p
  obtain ⟨result, rest⟩ := p
  cases result with
  | ok a => exact ⟨rfl, rfl⟩
  | error fault =>
    obtain ⟨cause, place⟩ := fault
    cases place with
    | none => exact ⟨rfl, rfl⟩
    | some place => exact ⟨rfl, rfl⟩

theorem steady_placed {r : Reader α} (hr : Steady r) : Steady (placed r) where
  nothing := (on_placed r []).1.trans hr.nothing
  extend text more hne := by
    obtain ⟨hrest, hvalue⟩ := on_placed r text
    obtain ⟨hlonger, hvalue'⟩ := on_placed r (text ++ more)
    rw [hrest] at hne ⊢
    rw [hlonger, hvalue, hvalue']
    exact hr.extend text more hne

theorem steady_peek : Steady peek where
  nothing := rfl
  extend text more hne := by
    cases text with
    | nil => exact absurd rfl hne
    | cons b rest => exact ⟨rfl, rfl⟩

theorem steady_advance : Steady advance where
  nothing := rfl
  extend text more hne := by
    cases text with
    | nil => exact absurd rfl hne
    | cons b rest => exact ⟨rfl, rfl⟩

theorem dropWhile_extend {p : UInt8 → Bool} {text : Bytes} (h : text.dropWhile p ≠ [])
    (more : Bytes) : (text ++ more).dropWhile p = text.dropWhile p ++ more := by
  rw [List.dropWhile_append, if_neg (by rwa [List.isEmpty_iff])]

theorem takeWhile_extend {p : UInt8 → Bool} {text : Bytes} (h : text.dropWhile p ≠ [])
    (more : Bytes) : (text ++ more).takeWhile p = text.takeWhile p := by
  rw [List.takeWhile_append, if_neg]
  intro hl
  have hsplit := congrArg List.length (List.takeWhile_append_dropWhile (p := p) (l := text))
  rw [List.length_append, hl] at hsplit
  exact h (List.eq_nil_of_length_eq_zero (by omega))

theorem steady_skipBlanks : Steady skipBlanks where
  nothing := rfl
  extend _ more hne := ⟨dropWhile_extend hne more, rfl⟩

theorem steady_peekToken : Steady peekToken :=
  steady_bind steady_skipBlanks fun _ => steady_peek

theorem steady_digits : Steady digits where
  nothing := rfl
  extend _ more hne := ⟨dropWhile_extend hne more, congrArg some (takeWhile_extend hne more)⟩

theorem steady_skipDigits : Steady skipDigits where
  nothing := rfl
  extend _ more hne := ⟨dropWhile_extend hne more, rfl⟩

theorem steady_word (letters : Bytes) : Steady (word letters) := by
  induction letters with
  | nil => exact steady_pure ()
  | cons wanted more ih =>
    refine steady_bind steady_peek fun next => ?_
    split
    · exact steady_failHere _
    · refine steady_bind steady_advance fun _ => ?_
      split
      · exact ih
      · exact steady_failHere _

theorem steady_finishFloat (s : Scaled) : Steady (finishFloat s) := by
  unfold finishFloat
  split
  · exact steady_pure _
  · exact steady_failHere _

theorem exponentDigits_append {value : Nat} {text rest : Bytes}
    (h : exponentDigits value text = .error rest) (more : Bytes) :
    exponentDigits value (text ++ more) = .error (rest ++ more) := by
  induction text generalizing value with
  | nil => cases h
  | cons b text ih =>
    rw [exponentDigits] at h
    rw [List.cons_append, exponentDigits]
    split at h
    · rename_i hlt
      rw [if_pos hlt]
      exact ih h
    · rename_i hge
      cases h
      rw [if_neg hge]

theorem steady_exponentSign : Steady exponentSign := by
  refine steady_bind steady_peek fun next => ?_
  split
  · exact steady_bind steady_advance fun _ => steady_pure true
  · exact steady_bind steady_advance fun _ => steady_pure false
  · exact steady_pure true

/-- Digits that are put back belong to what is left, whether or not more of them follow. -/
theorem steady_putBack {finish : Nat → Reader Number} {small : Bool} {a : Number} {cause : Cause}
    (hfinish : ∀ n, Steady (finish n)) :
    Steady (do
      match exponentDigits 0 (← digits) with
      | .ok n => finish n
      | .error rest =>
        if small then return a
        else
          modify (rest ++ ·)
          failHere cause) where
  nothing := (hfinish 0).nothing
  extend text more hne := by
    have hdigits (text : Bytes) :
        on digits text = (.ok (text.takeWhile isDigit), text.dropWhile isDigit) := rfl
    rw [on_bind_ok (hdigits text)] at hne ⊢
    rw [on_bind_ok (hdigits (text ++ more))]
    by_cases htail : text.dropWhile isDigit = []
    · have hall : ∀ b ∈ text, isDigit b = true := List.dropWhile_eq_nil_iff.mp htail
      rw [List.takeWhile_eq_self_iff.mpr hall, htail] at hne ⊢
      rw [List.takeWhile_append_of_pos hall, List.dropWhile_append_of_pos hall]
      cases hd : exponentDigits 0 text with
      | ok n =>
        simp only [hd] at hne
        exact absurd (hfinish n).nothing hne
      | error rest =>
        simp only [hd] at hne
        rw [exponentDigits_append hd]
        cases small with
        | true => exact absurd rfl hne
        | false =>
          refine ⟨?_, rfl⟩
          show rest ++ more.takeWhile isDigit ++ more.dropWhile isDigit = rest ++ [] ++ more
          rw [List.append_assoc, List.takeWhile_append_dropWhile, List.append_nil]
    · rw [takeWhile_extend htail, dropWhile_extend htail]
      cases hd : exponentDigits 0 (text.takeWhile isDigit) with
      | ok n =>
        rw [hd] at hne
        exact (hfinish n).extend _ more hne
      | error rest =>
        cases small with
        | true => exact ⟨rfl, rfl⟩
        | false => exact ⟨(List.append_assoc _ _ _).symm, rfl⟩

theorem steady_exponent (s : Scaled) : Steady (exponent s) := by
  refine steady_bind steady_advance fun _ => steady_bind steady_exponentSign fun positive => ?_
  refine steady_bind steady_peek fun next => ?_
  split
  · exact steady_failHere _
  · split
    · exact steady_putBack fun n => steady_finishFloat _
    · exact steady_bind steady_advance fun _ => steady_failHere _

theorem steady_fractionEnd (s : Scaled) : Steady (fractionEnd s) := by
  refine steady_bind steady_peek fun next => ?_
  split
  · exact steady_exponent s
  · exact steady_exponent s
  · exact steady_finishFloat s

theorem steady_fraction (s : Scaled) : Steady (fraction s) := by
  refine steady_bind steady_advance fun _ => steady_bind steady_digits fun ds => ?_
  split
  · refine steady_bind steady_peek fun next => ?_
    split
    · exact steady_failNext _
    · exact steady_failNext _
  · exact steady_fractionEnd _

theorem steady_wholeNumber (s : Scaled) : Steady (wholeNumber s) := by
  unfold wholeNumber
  split
  · split
    · exact steady_pure _
    · split
      · exact steady_pure _
      · exact steady_finishFloat s
  · exact steady_finishFloat s

theorem steady_afterInteger (s : Scaled) : Steady (afterInteger s) := by
  refine steady_bind steady_peek fun next => ?_
  split
  · exact steady_fraction s
  · exact steady_exponent s
  · exact steady_exponent s
  · exact steady_wholeNumber s

theorem steady_readNumber (negative : Bool) : Steady (readNumber negative) := by
  refine steady_bind steady_peek fun next => ?_
  split
  · exact steady_failHere _
  · refine steady_bind steady_advance fun _ => steady_bind steady_peek fun next => ?_
    split
    · split
      · exact steady_failNext _
      · exact steady_afterInteger _
    · exact steady_afterInteger _
  · split
    · exact steady_bind steady_digits fun ds => steady_afterInteger _
    · exact steady_bind steady_advance fun _ => steady_failHere _

theorem steady_skipExponent : Steady skipExponent := by
  refine steady_bind steady_advance fun _ => steady_bind steady_exponentSign fun _ => ?_
  refine steady_bind steady_peek fun next => ?_
  split
  · exact steady_failHere _
  · refine steady_bind steady_advance fun _ => ?_
    split
    · exact steady_skipDigits
    · exact steady_failHere _

theorem steady_skipFraction : Steady skipFraction := by
  refine steady_bind steady_advance fun _ => steady_bind steady_digits fun ds => ?_
  split
  · exact steady_failNext _
  · refine steady_bind steady_peek fun next => ?_
    split
    · exact steady_skipExponent
    · exact steady_skipExponent
    · exact steady_pure ()

theorem steady_skipInteger (first : UInt8) : Steady (skipInteger first) := by
  unfold skipInteger
  split
  · refine steady_bind steady_peek fun next => ?_
    split
    · split
      · exact steady_failNext _
      · exact steady_pure ()
    · exact steady_pure ()
  · exact steady_skipDigits

theorem steady_skipNumber : Steady skipNumber := by
  refine steady_bind steady_peek fun next => ?_
  split
  · exact steady_failHere _
  · refine steady_bind steady_advance fun _ => ?_
    split
    · exact steady_failHere _
    · refine steady_bind (steady_skipInteger _) fun _ => steady_bind steady_peek fun next => ?_
      split
      · exact steady_skipFraction
      · exact steady_skipExponent
      · exact steady_skipExponent
      · exact steady_pure ()

theorem scanString_extend {text rest : Bytes} {result : Except Cause Bytes} {state : StringState}
    {done : Bytes} (h : scanString state done text = (result, rest)) (hne : rest ≠ [])
    (more : Bytes) : scanString state done (text ++ more) = (result, rest ++ more) := by
  induction text generalizing state done with
  | nil =>
    cases h
    exact absurd rfl hne
  | cons b text ih =>
    rw [scanString] at h
    rw [List.cons_append, scanString]
    split at h
    · rename_i hends
      cases h
      rw [if_pos hends]
    · rename_i hends
      rw [if_neg hends]
      cases hstep : stringStep state done b with
      | ok step =>
        rw [hstep] at h
        exact ih h
      | error cause =>
        rw [hstep] at h
        cases h
        rfl

theorem scanSkipped_extend {text rest : Bytes} {result : Except Cause Unit} {state : SkipState}
    (h : scanSkipped state text = (result, rest)) (hne : rest ≠ []) (more : Bytes) :
    scanSkipped state (text ++ more) = (result, rest ++ more) := by
  induction text generalizing state with
  | nil =>
    cases h
    exact absurd rfl hne
  | cons b text ih =>
    cases state <;> grind [scanSkipped]

/-- A reader that makes a value of what a scan finds is as steady as the scan. -/
theorem steady_of_scan {r : Reader α} {scan : Bytes → Except Cause β × Bytes}
    {convert : Except Cause β → Option α} (hnil : (scan []).2 = [])
    (hscan : ∀ text result rest, scan text = (result, rest) → rest ≠ [] →
      ∀ more, scan (text ++ more) = (result, rest ++ more))
    (hr : ∀ text, (on r text).2 = (scan text).2 ∧
      (on r text).1.toOption = convert (scan text).1) : Steady r where
  nothing := (hr []).1.trans hnil
  extend text more hne := by
    rw [(hr text).1] at hne
    have hlonger := hscan text _ _ rfl hne more
    rw [(hr _).1, (hr _).1, (hr _).2, (hr _).2, hlonger]
    exact ⟨rfl, rfl⟩

def spelt? (result : Except Cause Bytes) : Option (List Char) :=
  result.toOption.bind fun bytes => (Utf8.decode bytes).toOption

theorem on_stringText_eq (text : Bytes) :
    (on stringText text).2 = (scanString .plain [] text).2 ∧
      (on stringText text).1.toOption = spelt? (scanString .plain [] text).1 := by
  rw [stringText, on_bind_ok (on_get text)]
  generalize scanString .plain [] text = p
  obtain ⟨result, rest⟩ := p
  cases result with
  | error cause => exact ⟨rfl, rfl⟩
  | ok bytes =>
    have hspelt : spelt? (.ok bytes) = (Utf8.decode bytes).toOption := rfl
    simp only [hspelt]
    rw [on_bind_ok (on_set rest text)]
    cases Utf8.decode bytes with
    | ok spelt => exact ⟨rfl, rfl⟩
    | error offset => exact ⟨rfl, rfl⟩

theorem steady_stringText : Steady stringText :=
  steady_of_scan rfl (fun _ _ _ => scanString_extend) on_stringText_eq

theorem on_skipString_eq (text : Bytes) :
    (on skipString text).2 = (scanSkipped .plain text).2 ∧
      (on skipString text).1.toOption = (scanSkipped .plain text).1.toOption := by
  rw [skipString, on_bind_ok (on_get text)]
  generalize scanSkipped .plain text = p
  obtain ⟨result, rest⟩ := p
  cases result with
  | ok done => exact ⟨rfl, rfl⟩
  | error cause => exact ⟨rfl, rfl⟩

theorem steady_skipString : Steady skipString :=
  steady_of_scan rfl (fun _ _ _ => scanSkipped_extend) on_skipString_eq

theorem steady_closeArray : Steady closeArray := by
  refine steady_bind steady_peekToken fun next => ?_
  split
  · exact steady_advance
  · refine steady_bind steady_advance fun _ => steady_bind steady_peekToken fun next => ?_
    split
    · exact steady_failNext _
    · exact steady_failNext _
  · exact steady_failNext _
  · exact steady_failNext _

theorem steady_closeObject : Steady closeObject := by
  refine steady_bind steady_peekToken fun next => ?_
  split
  · exact steady_advance
  · exact steady_failNext _
  · exact steady_failNext _
  · exact steady_failNext _

theorem steady_moreElements (first : Bool) : Steady (moreElements first) := by
  refine steady_bind steady_peekToken fun next => ?_
  split
  · exact steady_failNext _
  · exact steady_pure false
  · split
    · exact steady_pure true
    · split
      · refine steady_bind steady_advance fun _ => steady_bind steady_peekToken fun next => ?_
        split
        · exact steady_failNext _
        · exact steady_pure true
        · exact steady_failNext _
      · exact steady_failNext _

theorem steady_startsKey (next : Option UInt8) : Steady (startsKey next) := by
  unfold startsKey
  split
  · exact steady_pure true
  · exact steady_failNext _
  · exact steady_failNext _
  · exact steady_failNext _

theorem steady_moreMembers (first : Bool) : Steady (moreMembers first) := by
  refine steady_bind steady_peekToken fun next => ?_
  split
  · exact steady_failNext _
  · exact steady_pure false
  · split
    · exact steady_startsKey _
    · split
      · exact steady_bind steady_advance fun _ =>
          steady_bind steady_peekToken fun next => steady_startsKey next
      · exact steady_failNext _

theorem steady_colon : Steady colon := by
  refine steady_bind steady_peekToken fun next => ?_
  split
  · exact steady_advance
  · exact steady_failNext _
  · exact steady_failNext _

theorem steady_scalar (front : UInt8) : Steady (scalar front) := by
  unfold scalar
  have hword (letters : Bytes) (found : Found) : Steady (do advance; word letters; return found) :=
    steady_bind steady_advance fun _ => steady_bind (steady_word letters) fun _ =>
      steady_pure found
  split
  · exact hword _ _
  split
  · exact hword _ _
  split
  · exact hword _ _
  split
  · exact steady_bind steady_advance fun _ => steady_bind steady_stringText fun _ => steady_pure _
  split
  · exact steady_bind steady_advance fun _ =>
      steady_bind (steady_readNumber true) fun _ => steady_pure _
  split
  · exact steady_bind (steady_readNumber false) fun _ => steady_pure _
  · exact steady_failNext _

theorem steady_startValue : Steady startValue := by
  refine steady_bind steady_peekToken fun next => ?_
  split
  · exact steady_failNext _
  · exact steady_bind steady_advance fun _ => steady_pure _
  · exact steady_bind steady_advance fun _ => steady_pure _
  · exact steady_scalar _

theorem steady_refuse (wanted : Wanted) (front : UInt8) :
    Steady (refuse wanted front : Reader α) := by
  refine steady_placed ?_
  split
  · exact steady_failUnplaced _
  split
  · exact steady_failUnplaced _
  · exact steady_bind (steady_scalar front) fun _ => steady_failUnplaced _

theorem steady_boundedNumber (wanted : Wanted) (bound : Nat) :
    Steady (boundedNumber wanted bound) := by
  refine steady_bind steady_peekToken fun next => ?_
  split
  · exact steady_failNext _
  · split
    · refine steady_placed ?_
      -- What comes behind the sign is the same with and without one.
      extract_lets number
      have hnumber : Steady (number ()) := by
        refine steady_bind (steady_readNumber _) fun read => ?_
        split
        · split
          · exact steady_pure _
          · exact steady_failUnplaced _
        · exact steady_failUnplaced _
        · exact steady_failUnplaced _
      split
      · exact steady_bind steady_advance fun _ => hnumber
      · exact hnumber
    · exact steady_refuse wanted _

end BlobRetrieval.Json
