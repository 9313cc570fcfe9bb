import BlobRetrieval.Json.Typed
import BlobRetrieval.Proofs.Json.Grammar

/-!
# Readers on a text

What the parts of a reader do to a text, and what the readers of punctuation do where
the punctuation stands. A reader reads a value if it gives the same result on every
spelling of the value, whatever blanks stand in front, and leaves what follows.
-/

set_option autoImplicit false

namespace BlobRetrieval.Json

variable {α β : Type}

namespace Reader

theorem on_pure (a : α) (text : Bytes) : on (pure a) text = (.ok a, text) :=
  rfl

theorem on_bind (r : Reader α) (f : α → Reader β) (text : Bytes) :
    on (r >>= f) text =
      match on r text with
      | (.ok a, rest) => on (f a) rest
      | (.error fault, rest) => (.error fault, rest) := by
  simp only [on, ExceptT.run_bind, StateT.run_bind]
  generalize StateT.run (ExceptT.run r) text = p
  obtain ⟨result, rest⟩ := p
  cases result <;> rfl

theorem on_bind_ok {r : Reader α} {f : α → Reader β} {text rest : Bytes} {a : α}
    (h : on r text = (.ok a, rest)) : on (r >>= f) text = on (f a) rest := by
  rw [on_bind, h]

theorem on_map_ok {g : α → β} {r : Reader α} {text rest : Bytes} {a : α}
    (h : on r text = (.ok a, rest)) : on (g <$> r) text = (.ok (g a), rest) := by
  rw [map_eq_pure_bind, on_bind_ok h, on_pure]

theorem on_get (text : Bytes) : on get text = (.ok text, text) :=
  rfl

theorem on_set (rest text : Bytes) : on (set rest) text = (.ok ⟨⟩, rest) :=
  rfl

theorem on_advance (text : Bytes) : on advance text = (.ok (), text.tail) :=
  rfl

theorem on_budget (text : Bytes) : on budget text = (.ok (text.length + 1), text) :=
  rfl

theorem on_attempt (r : Reader α) (text : Bytes) :
    on (attempt r) text = (.ok (on r text).1, (on r text).2) :=
  rfl

theorem on_placed_ok {r : Reader α} {text rest : Bytes} {a : α} (h : on r text = (.ok a, rest)) :
    on (placed r) text = (.ok a, rest) := by
  rw [placed, on_bind, on_attempt, h]
  rfl

end Reader

open Reader

theorem on_within_ok {close : Reader Unit} {inside : Reader α} {text middle rest : Bytes} {a : α}
    (hi : on inside text = (.ok a, middle)) (hc : on close middle = (.ok (), rest)) :
    on (within close inside) text = (.ok a, rest) := by
  apply on_placed_ok
  rw [on_bind, on_attempt, hi]
  simp only
  rw [on_bind, on_attempt, hc]
  rfl

section Punctuation

variable {before : Bytes} (hb : Blanks before)

include hb

theorem dropWhile_blanks (rest : Bytes) :
    (before ++ rest).dropWhile isBlank = rest.dropWhile isBlank :=
  List.dropWhile_append_of_pos hb

theorem on_peekToken {b : UInt8} (h : isBlank b = false) (rest : Bytes) :
    on peekToken (before ++ b :: rest) = (.ok (some b), b :: rest) := by
  have hd : (before ++ b :: rest).dropWhile isBlank = b :: rest := by
    rw [dropWhile_blanks hb, List.dropWhile_cons_of_neg (by rw [h]; decide)]
  show (Except.ok _, _) = _
  rw [hd]
  rfl

theorem on_peekToken_end : on peekToken before = (.ok none, []) := by
  have hd := dropWhile_blanks hb []
  rw [List.append_nil] at hd
  show (Except.ok _, _) = _
  rw [hd]
  rfl

theorem on_closeArray (rest : Bytes) : on closeArray (before ++ 93 :: rest) = (.ok (), rest) := by
  rw [closeArray, on_bind_ok (on_peekToken hb rfl rest)]
  rfl

theorem on_closeObject (rest : Bytes) :
    on closeObject (before ++ 125 :: rest) = (.ok (), rest) := by
  rw [closeObject, on_bind_ok (on_peekToken hb rfl rest)]
  rfl

theorem on_colon (rest : Bytes) : on colon (before ++ 58 :: rest) = (.ok (), rest) := by
  rw [colon, on_bind_ok (on_peekToken hb rfl rest)]
  rfl

end Punctuation

def Line.ahead (first : Bool) (closing : UInt8) (last : Bytes) (lines : List Line) : Bytes :=
  if first then enclosed closing last lines else more closing last lines

theorem Line.ahead_nil (first : Bool) (closing : UInt8) (last rest : Bytes) :
    ahead first closing last [] ++ rest = last ++ closing :: rest := by
  cases first <;> simp [ahead, enclosed, more]

theorem Line.length_lt_more (closing : UInt8) (last : Bytes) (lines : List Line) :
    lines.length < (more closing last lines).length := by
  induction lines with
  | nil => simp [more]
  | cons l lines ih =>
    simp only [more, List.length_append, List.length_cons]
    omega

theorem Line.length_le_enclosed (closing : UInt8) (last : Bytes) (lines : List Line) :
    lines.length ≤ (enclosed closing last lines).length := by
  cases lines with
  | nil => exact Nat.zero_le _
  | cons l lines =>
    have hm := length_lt_more closing last lines
    simp only [enclosed, List.length_append, List.length_cons]
    omega

section Items

variable {last : Bytes} (first : Bool) (rest : Bytes)

theorem on_moreElements_end (hl : Blanks last) :
    on (moreElements first) (Line.ahead first 93 last [] ++ rest) = (.ok false, 93 :: rest) := by
  rw [Line.ahead_nil, moreElements, on_bind_ok (on_peekToken hl rfl rest)]
  rfl

theorem on_moreMembers_end (hl : Blanks last) :
    on (moreMembers first) (Line.ahead first 125 last [] ++ rest) = (.ok false, 125 :: rest) := by
  rw [Line.ahead_nil, moreMembers, on_bind_ok (on_peekToken hl rfl rest)]
  rfl

variable {l : Line} (hs : l.Spaced) (lines : List Line)

include hs

theorem on_moreElements_next {b : UInt8} {bs : Bytes} (ht : l.text = b :: bs) (ho : Opens b) :
    on (moreElements first) (Line.ahead first 93 last (l :: lines) ++ rest) =
      (.ok true, l.text ++ (Line.more 93 last lines ++ rest)) := by
  cases first with
  | true =>
    simp only [Line.ahead, if_true, Line.enclosed, ht, List.append_assoc, List.cons_append]
    rw [moreElements, on_bind_ok (on_peekToken hs.2 ho.1 _)]
    split
    · rename_i h
      cases h
    · rename_i h
      cases h
      exact absurd rfl ho.2.1
    · rfl
  | false =>
    simp only [Line.ahead, Bool.false_eq_true, if_false, Line.more, ht, List.append_assoc,
      List.cons_append]
    rw [moreElements, on_bind_ok (on_peekToken hs.1 rfl _)]
    apply (on_bind_ok (on_advance _)).trans
    rw [List.tail_cons, on_bind_ok (on_peekToken hs.2 ho.1 _)]
    split
    · rename_i h
      cases h
      exact absurd rfl ho.2.1
    · rfl
    · rename_i h
      cases h

theorem on_moreMembers_next {bs : Bytes} (ht : l.text = 34 :: bs) :
    on (moreMembers first) (Line.ahead first 125 last (l :: lines) ++ rest) =
      (.ok true, l.text ++ (Line.more 125 last lines ++ rest)) := by
  cases first with
  | true =>
    simp only [Line.ahead, if_true, Line.enclosed, ht, List.append_assoc, List.cons_append]
    rw [moreMembers, on_bind_ok (on_peekToken hs.2 rfl _)]
    rfl
  | false =>
    simp only [Line.ahead, Bool.false_eq_true, if_false, Line.more, ht, List.append_assoc,
      List.cons_append]
    rw [moreMembers, on_bind_ok (on_peekToken hs.1 rfl _)]
    apply (on_bind_ok (on_advance _)).trans
    rw [List.tail_cons, on_bind_ok (on_peekToken hs.2 rfl _)]
    rfl

end Items

def Apart (text : Bytes) : Prop :=
  ∀ b ∈ text.head?, isDigit b = false ∧ b ≠ 46 ∧ b ≠ 101 ∧ b ≠ 69

def Reads (r : Reader α) (value : Json) (a : α) : Prop :=
  ∀ before text rest, Blanks before → Spells value text → Apart rest →
    on r (before ++ (text ++ rest)) = (.ok a, rest)

theorem apart_cons {b : UInt8} (h : isDigit b = false) (hp : b ≠ 46) (he : b ≠ 101) (hE : b ≠ 69)
    (rest : Bytes) : Apart (b :: rest) := by
  intro c hc
  cases hc
  exact ⟨h, hp, he, hE⟩

theorem apart_blanks {before rest : Bytes} (hb : Blanks before) (hr : Apart rest) :
    Apart (before ++ rest) := by
  cases before with
  | nil => exact hr
  | cons b before =>
    have hblank := hb b List.mem_cons_self
    simp only [isBlank, Bool.or_eq_true, beq_iff_eq] at hblank
    rcases hblank with ((rfl | rfl) | rfl) | rfl <;>
      exact apart_cons (by decide) (by decide) (by decide) (by decide) _

theorem apart_of_blanks {text : Bytes} (h : Blanks text) : Apart text := by
  rw [← List.append_nil text]
  apply apart_blanks h
  intro b hb
  cases hb

theorem apart_more {closing : UInt8} (hc : closing = 93 ∨ closing = 125) {last : Bytes}
    (hl : Blanks last) {lines : List Line} (hs : ∀ l ∈ lines, l.Spaced) (rest : Bytes) :
    Apart (Line.more closing last lines ++ rest) := by
  cases lines with
  | nil =>
    rw [Line.more, List.append_assoc]
    apply apart_blanks hl
    rcases hc with rfl | rfl <;>
      exact apart_cons (by decide) (by decide) (by decide) (by decide) _
  | cons l lines =>
    rw [Line.more, List.append_assoc]
    apply apart_blanks (hs l List.mem_cons_self).1
    exact apart_cons (by decide) (by decide) (by decide) (by decide) _

theorem decode_document {r : Reader α} {value : Json} {a : α} (hr : Reads r value a)
    {input : Bytes} (hd : Document value input) : decode r input = .ok a := by
  obtain ⟨before, text, after, hb, ht, ha⟩ := hd
  have hread := hr before text after hb ht (apart_of_blanks ha)
  simp only [decode]
  rw [on_bind_ok hread, on_bind_ok (on_peekToken_end ha)]
  rfl

end BlobRetrieval.Json
