import BlobRetrieval.Text.AsciiCase
import BlobRetrieval.Text.Lowercase
import BlobRetrieval.Proofs.Text.Utf8

/-!
# Which texts have a word in ASCII as their lower case

Lower case takes characters outside ASCII into account, but it takes only one of them, the
Kelvin sign, to a letter of ASCII alone. A word in ASCII without a `k` is therefore the lower case
of those texts only that differ from it in the letter case of ASCII.
-/

set_option autoImplicit false

namespace BlobRetrieval

theorem toLower_of_not_ascii {c : Char} (h : 0x80 ≤ c.toNat) : c.toLower = c := by
  unfold Char.toLower
  split
  next hc =>
    have hhigh : c.toNat ≤ 90 := UInt32.le_iff_toNat_le.mp hc.2
    omega
  next => rfl

/-- What does not depend on letter case in ASCII does not depend on it at all. -/
theorem apply_toLower {α : Type} (f : Char → α)
    (h : ∀ n < 0x80, f (Char.ofNat n).toLower = f (Char.ofNat n)) (c : Char) :
    f c.toLower = f c := by
  by_cases hc : c.toNat < 0x80
  · have hascii := h c.toNat hc
    rwa [Char.ofNat_toNat] at hascii
  · rw [toLower_of_not_ascii (Nat.not_lt.mp hc)]

theorem toLower_lt_iff (c : Char) : c.toLower.toNat < 0x80 ↔ c.toNat < 0x80 :=
  decide_eq_decide.mp (apply_toLower (fun c => decide (c.toNat < 0x80)) (by decide) c)

def CaseRun.StaysOutside (run : CaseRun) : Prop :=
  0x80 ≤ run.image ∧ (run.image + (run.last - run.first) < 0xD800 ∨
    0xDFFF < run.image ∧ run.image + (run.last - run.first) ≤ 0x10FFFF)

instance (run : CaseRun) : Decidable run.StaysOutside :=
  inferInstanceAs (Decidable (_ ∧ _))

def CaseRun.IsKelvin (run : CaseRun) : Prop :=
  run.first = 0x212A ∧ run.last = 0x212A ∧ run.image = 0x6B

instance (run : CaseRun) : Decidable run.IsKelvin :=
  inferInstanceAs (Decidable (_ ∧ _))

theorem lowerRuns_outside :
    ∀ run ∈ lowerRuns, 0x80 ≤ run.last → run.StaysOutside ∨ run.IsKelvin := by
  decide +kernel

theorem CaseRun.StaysOutside.lower {run : CaseRun} (h : run.StaysOutside) {c d : Char}
    (hd : run.lower? c = some d) : 0x80 ≤ d.toNat := by
  obtain ⟨hlow, hvalid⟩ := h
  obtain ⟨⟨hfirst, hlast, -⟩, rfl⟩ := Option.ite_some_none_eq_some.mp hd
  have hd : (Char.ofNat (run.image + (c.toNat - run.first))).toNat =
      run.image + (c.toNat - run.first) := Utf8.toNat_ofNat_valid (by omega)
  omega

theorem CaseRun.IsKelvin.lower {run : CaseRun} (h : run.IsKelvin) {c d : Char}
    (hd : run.lower? c = some d) : d = 'k' := by
  obtain ⟨hfirst, hlast, himage⟩ := h
  obtain ⟨⟨hge, hle, -⟩, rfl⟩ := Option.ite_some_none_eq_some.mp hd
  have hzero : c.toNat - run.first = 0 := by omega
  rw [himage, hzero]

/-- No character outside ASCII becomes a letter of ASCII other than `k`. -/
theorem lowerChar_outside {c : Char} (h : 0x80 ≤ c.toNat) :
    0x80 ≤ (lowerChar c).toNat ∨ lowerChar c = 'k' := by
  rw [lowerChar, if_neg (Nat.not_lt.mpr h)]
  cases hfind : lowerRuns.findSome? (·.lower? c) with
  | none => exact .inl h
  | some d =>
    obtain ⟨run, hmem, hd⟩ := List.exists_of_findSome?_eq_some hfind
    obtain ⟨⟨-, hlast, -⟩, -⟩ := Option.ite_some_none_eq_some.mp hd
    rcases lowerRuns_outside run hmem (Nat.le_trans h hlast) with hrun | hrun
    · exact .inl (hrun.lower hd)
    · exact .inr (hrun.lower hd)

/-- In ASCII, the lower case of a character is its small letter. -/
theorem lowercaseFrom_ascii (before after : List Char) {c : Char} (h : c.toNat < 0x80) :
    lowercaseFrom before (c :: after) = c.toLower :: lowercaseFrom (c :: before) after := by
  have hdot : c ≠ '\u0130' := by
    rintro rfl
    exact absurd h (by decide)
  have hsigma : c ≠ '\u03a3' := by
    rintro rfl
    exact absurd h (by decide)
  rw [lowercaseFrom, if_neg hdot, if_neg hsigma, lowerChar, if_pos h]

/-- Outside ASCII, the lower case of a character leaves a mark in the text: something outside
ASCII, or a `k`. -/
theorem exists_mem_lowercaseFrom (before after : List Char) {c : Char} (h : 0x80 ≤ c.toNat) :
    ∃ d ∈ lowercaseFrom before (c :: after), 0x80 ≤ d.toNat ∨ d = 'k' := by
  rw [lowercaseFrom]
  split
  · exact ⟨'\u0307', by simp, .inl (by decide)⟩
  · split
    · refine ⟨_, List.mem_cons_self, .inl ?_⟩
      unfold lowerSigma
      split <;> decide
    · exact ⟨_, List.mem_cons_self, lowerChar_outside h⟩

def Plain (word : List Char) : Prop :=
  ∀ c ∈ word, c.toNat < 0x80 ∧ c ≠ 'k'

instance (word : List Char) : Decidable (Plain word) :=
  List.decidableBAll _ _

theorem lowercaseFrom_eq_iff {word : List Char} (hword : Plain word) (before text : List Char) :
    lowercaseFrom before text = word ↔ foldAscii text = word := by
  induction text generalizing before word with
  | nil => rfl
  | cons c text ih =>
    by_cases hc : c.toNat < 0x80
    · rw [lowercaseFrom_ascii before text hc]
      cases word with
      | nil => simp [foldAscii]
      | cons d word =>
        have hrest : Plain word := fun e he => hword e (List.mem_cons_of_mem d he)
        rw [List.cons_eq_cons, ih hrest]
        exact List.cons_eq_cons.symm
    · constructor
      · rintro rfl
        obtain ⟨d, hd, hout⟩ := exists_mem_lowercaseFrom before text (Nat.not_lt.mp hc)
        obtain ⟨hlow, hk⟩ := hword d hd
        exact absurd hout (not_or.mpr ⟨Nat.not_le.mpr hlow, hk⟩)
      · rintro rfl
        exact absurd (hword c.toLower List.mem_cons_self).1 (hc ∘ (toLower_lt_iff c).mp)

/-- The lower case of a text is a plain word just if the text is that word in some letter case of
ASCII. -/
theorem lowercase_eq_iff {word : String} (hword : Plain word.toList) (text : String) :
    lowercase text = word ↔ foldAscii text.toList = word.toList := by
  rw [← lowercaseFrom_eq_iff hword [], lowercase, ← String.toList_inj, String.toList_ofList]

/-- With a `k`, the Kelvin sign is another way to write it. -/
example : lowercase "\u212a" = "k" ∧ foldAscii "\u212a".toList ≠ "k".toList := by
  decide +kernel

end BlobRetrieval
