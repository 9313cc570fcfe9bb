import BlobRetrieval.Proofs.Json.Reading
import BlobRetrieval.Proofs.Text.Utf8

/-!
# Reading spelled strings

The string reader yields the text that a string spells. One lemma for each spelling of
a character says what the scan keeps of it, and the text follows by induction on the
spelling.
-/

set_option autoImplicit false

namespace BlobRetrieval.Json

open Reader

def Ordinary (b : UInt8) : Prop :=
  b ≠ 34 ∧ b ≠ 92 ∧ ¬ b < 32

theorem ordinary_ofNat {n : Nat} (hu : n < 256) (hl : 32 ≤ n) (hquote : n ≠ 34)
    (hbackslash : n ≠ 92) : Ordinary (UInt8.ofNat n) := by
  have hn : (UInt8.ofNat n).toNat = n := by rw [UInt8.toNat_ofNat']; omega
  refine ⟨?_, ?_, ?_⟩
  · intro h
    exact hquote (hn.symm.trans (congrArg UInt8.toNat h))
  · intro h
    exact hbackslash (hn.symm.trans (congrArg UInt8.toNat h))
  · rw [UInt8.lt_iff_toNat_lt, hn]
    exact Nat.not_lt.mpr hl

theorem ordinary_high {n : Nat} (hl : 0x80 ≤ n) (hu : n < 256) : Ordinary (UInt8.ofNat n) :=
  ordinary_ofNat hu (by omega) (by omega) (by omega)

theorem ordinary_encodeChar (c : Char) (hl : 0x20 ≤ c.toNat) (hquote : c ≠ '"')
    (hbackslash : c ≠ '\\') : ∀ b ∈ String.utf8EncodeChar c, Ordinary b := by
  have he : c.val.toNat = c.toNat := rfl
  intro b hb
  simp only [String.utf8EncodeChar, he] at hb
  split at hb
  · cases List.mem_singleton.mp hb
    exact ordinary_ofNat (by omega) hl (fun h => hquote (Char.toNat_inj.mp h))
      fun h => hbackslash (Char.toNat_inj.mp h)
  split at hb
  · simp only [List.mem_cons, List.not_mem_nil, or_false] at hb
    rcases hb with rfl | rfl <;> exact ordinary_high (by omega) (by omega)
  split at hb
  · simp only [List.mem_cons, List.not_mem_nil, or_false] at hb
    rcases hb with rfl | rfl | rfl <;> exact ordinary_high (by omega) (by omega)
  · simp only [List.mem_cons, List.not_mem_nil, or_false] at hb
    rcases hb with rfl | rfl | rfl | rfl <;> exact ordinary_high (by omega) (by omega)

theorem scanString_ordinary (bytes done rest : Bytes) (h : ∀ b ∈ bytes, Ordinary b) :
    scanString .plain done (bytes ++ rest) = scanString .plain (bytes.reverse ++ done) rest := by
  induction bytes generalizing done with
  | nil => rfl
  | cons b bytes ih =>
    obtain ⟨hquote, hbackslash, hcontrol⟩ := h b List.mem_cons_self
    have hends : StringState.plain.ends b = false := beq_false_of_ne hquote
    have hstep : stringStep .plain done b = .ok (.plain, b :: done) := by
      rw [stringStep, if_neg hbackslash, if_neg hcontrol]
    rw [List.cons_append, scanString, hends, if_neg Bool.false_ne_true, hstep]
    simp only
    rw [ih (b :: done) (fun c hc => h c (List.mem_cons_of_mem b hc)), List.reverse_cons,
      List.append_assoc]
    rfl

theorem scanString_short {letter b : UInt8} (h : shortUnescape? letter = some b)
    (done rest : Bytes) :
    scanString .plain done (92 :: letter :: rest) = scanString .plain (b :: done) rest := by
  have hu : letter ≠ 117 := by
    rintro rfl
    cases h
  have hstep : stringStep .escape done letter = .ok (.plain, b :: done) := by
    rw [stringStep, if_neg hu, h]
  rw [scanString]
  show scanString .escape done (letter :: rest) = _
  rw [scanString, hstep]
  rfl

theorem encodeChar_short {letter b : UInt8} (h : shortUnescape? letter = some b) :
    String.utf8EncodeChar (Char.ofNat b.toNat) = [b] := by
  unfold shortUnescape? at h
  split at h <;> cases h <;> rfl

theorem addDigit_some {b : UInt8} {d : Nat} (h : Hex.digit? b = some d) (v : Nat) :
    addDigit (some v) b = some (16 * v + d) := by
  simp only [addDigit, h]

theorem scanString_digit {b : UInt8} {d v left : Nat} {lead : Option Nat}
    (h : Hex.digit? b = some d) (hl : 1 < left) (done rest : Bytes) :
    scanString (.unit lead left (some v)) done (b :: rest) =
      scanString (.unit lead (left - 1) (some (16 * v + d))) done rest := by
  have hstep : stringStep (.unit lead left (some v)) done b =
      .ok (.unit lead (left - 1) (some (16 * v + d)), done) := by
    rw [stringStep, if_pos hl, addDigit_some h]
  rw [scanString, hstep]
  rfl

theorem scanString_unit {digits : Bytes} {n : Nat} (h : CodeUnit digits n) {lead : Option Nat}
    {done grown : Bytes} {next : StringState} (hf : finishUnit lead n done = .ok (next, grown))
    (rest : Bytes) :
    scanString (.unit lead 4 (some 0)) done (digits ++ rest) = scanString next grown rest := by
  obtain ⟨a, b, c, d, p, q, r, s, ha, hb, hc, hd⟩ := h
  have hstep : stringStep (.unit lead 1 (some (16 * (16 * (16 * 0 + p) + q) + r))) done d =
      .ok (next, grown) := by
    rw [Nat.mul_zero, Nat.zero_add, stringStep, if_neg (by decide), addDigit_some hd]
    exact hf
  show scanString _ _ (a :: b :: c :: d :: rest) = _
  rw [scanString_digit ha (by decide), scanString_digit hb (by decide),
    scanString_digit hc (by decide), scanString, hstep]
  rfl

theorem finishUnit_whole {n : Nat} (h : n < 0xD800 ∨ 0xDFFF < n) (done : Bytes) :
    finishUnit none n done = .ok (.plain, reversedUtf8 n ++ done) := by
  have ht : (decide (0xDC00 ≤ n) && decide (n ≤ 0xDFFF)) = false := by
    rw [← Bool.decide_and, decide_eq_false_iff_not]
    omega
  have hl : (decide (0xD800 ≤ n) && decide (n ≤ 0xDBFF)) = false := by
    rw [← Bool.decide_and, decide_eq_false_iff_not]
    omega
  simp only [finishUnit, ht, hl]
  rfl

theorem finishUnit_high {n : Nat} (hl : 0xD800 ≤ n) (hu : n ≤ 0xDBFF) (done : Bytes) :
    finishUnit none n done = .ok (.wantBackslash n, done) := by
  have ht : (decide (0xDC00 ≤ n) && decide (n ≤ 0xDFFF)) = false := by
    rw [← Bool.decide_and, decide_eq_false_iff_not]
    omega
  have hh : (decide (0xD800 ≤ n) && decide (n ≤ 0xDBFF)) = true := by
    rw [← Bool.decide_and, decide_eq_true_eq]
    omega
  simp only [finishUnit, ht, hh]
  rfl

theorem finishUnit_low {high n : Nat} (hl : 0xDC00 ≤ n) (hu : n ≤ 0xDFFF) (done : Bytes) :
    finishUnit (some high) n done =
      .ok (.plain, reversedUtf8 (0x10000 + (high - 0xD800) * 0x400 + (n - 0xDC00)) ++ done) := by
  have ht : (decide (0xDC00 ≤ n) && decide (n ≤ 0xDFFF)) = true := by
    rw [← Bool.decide_and, decide_eq_true_eq]
    omega
  simp only [finishUnit, ht]
  rfl

theorem scanString_charText {c : Char} {bytes : Bytes} (h : CharText c bytes)
    (done rest : Bytes) :
    scanString .plain done (bytes ++ rest) =
      scanString .plain ((String.utf8EncodeChar c).reverse ++ done) rest := by
  cases h with
  | plain _ hl hquote hbackslash =>
    exact scanString_ordinary _ done rest (ordinary_encodeChar c hl hquote hbackslash)
  | short letter b h =>
    rw [encodeChar_short h]
    exact scanString_short h done rest
  | unit digits n hunit hn =>
    exact scanString_unit hunit (finishUnit_whole hn done) rest
  | pair first second high low hfirst hsecond hl hu hl' hu' =>
    rw [List.cons_append, List.cons_append, List.append_assoc]
    have hhigh := scanString_unit hfirst (finishUnit_high hl hu done) (92 :: 117 :: second ++ rest)
    exact hhigh.trans (scanString_unit hsecond (finishUnit_low hl' hu' done) rest)

theorem scanString_stringText {text : List Char} {body : Bytes} (h : StringText text body)
    (done rest : Bytes) :
    scanString .plain done (body ++ 34 :: rest) =
      (.ok (done.reverse ++ Utf8.encode text), rest) := by
  induction h generalizing done with
  | nil => rw [Utf8.encode, List.flatMap_nil, List.append_nil]; rfl
  | cons c text bytes more hc _ ih =>
    rw [List.append_assoc, scanString_charText hc, ih, List.reverse_append, List.reverse_reverse,
      List.append_assoc]
    rfl

theorem on_stringText {text : List Char} {body : Bytes} (h : StringText text body)
    (rest : Bytes) : on stringText (body ++ 34 :: rest) = (.ok text, rest) := by
  have hscan := scanString_stringText h [] rest
  rw [List.reverse_nil, List.nil_append] at hscan
  rw [stringText, on_bind_ok (on_get _), hscan]
  apply (on_bind_ok (on_set rest _)).trans
  simp only [Utf8.decode_encode]
  rfl

end BlobRetrieval.Json
