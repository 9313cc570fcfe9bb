import BlobRetrieval.Text.Scan

/-!
# What scans read

How the result of a scan comes from those of its parts, and what can be said about a result
from the scan alone.
-/

set_option autoImplicit false

namespace BlobRetrieval.Scan

variable {α β : Type} {p q : Scan α} {f : α → Scan β} {text rest : List Char} {a : α} {b : β}

theorem pure_eq_some : (pure a : Scan α) text = some (a, rest) ↔ rest = text := by
  constructor
  · intro h
    cases h
    rfl
  · rintro rfl
    rfl

theorem bind_eq_some :
    (p >>= f) text = some (b, rest) ↔
      ∃ a mid, p text = some (a, mid) ∧ f a mid = some (b, rest) := by
  refine Option.bind_eq_some_iff.trans ⟨?_, ?_⟩
  · rintro ⟨⟨a, mid⟩, hp, hf⟩
    exact ⟨a, mid, hp, hf⟩
  · rintro ⟨a, mid, hp, hf⟩
    exact ⟨(a, mid), hp, hf⟩

theorem orElse_apply : (p <|> q) text = (p text).or (q text) := by
  change Option.orElse (p text) (fun _ => q text) = _
  cases p text <;> rfl

theorem orElse_eq_some (h : (p <|> q) text = some (a, rest)) :
    p text = some (a, rest) ∨ p text = none ∧ q text = some (a, rest) := by
  rwa [orElse_apply, Option.or_eq_some_iff] at h

theorem guard_eq_some {c : Prop} [Decidable c] {u : Unit} :
    (guard c : Scan Unit) text = some (u, rest) ↔ c ∧ rest = text := by
  change (if c then pure () else failure : Scan Unit) text = some (u, rest) ↔ _
  by_cases hc : c
  · rw [if_pos hc, pure_eq_some]
    exact (and_iff_right hc).symm
  · rw [if_neg hc]
    constructor
    · intro h
      cases h
    · intro h
      exact absurd h.1 hc

theorem char_eq_some {c : Char} {u : Unit} :
    char c text = some (u, rest) ↔ text = c :: rest := by
  cases text with
  | nil => exact ⟨nofun, nofun⟩
  | cons d text =>
    rw [char]
    split
    · next hd =>
      subst hd
      simp
    · next hd =>
      constructor
      · intro h
        cases h
      · intro h
        exact absurd (List.cons.inj h).1 hd

def Yields (p : Scan α) (P : α → Prop) : Prop :=
  ∀ text a rest, p text = some (a, rest) → P a

namespace Yields

variable {P : α → Prop} {Q : β → Prop}

theorem any (p : Scan α) : Yields p fun _ => True :=
  fun _ _ _ _ => trivial

theorem pure (h : P a) : Yields (pure a) P := by
  intro text a' rest h'
  cases h'
  exact h

theorem bind (hp : Yields p P) (h : ∀ a, P a → Yields (f a) Q) : Yields (p >>= f) Q := by
  intro text b rest hb
  obtain ⟨a, mid, ha, hf⟩ := bind_eq_some.mp hb
  exact h a (hp text a mid ha) mid b rest hf

/-- What the last scan in a row gives. -/
theorem after (h : ∀ a, Yields (f a) Q) : Yields (p >>= f) Q :=
  (any p).bind fun a _ => h a

theorem orElse (hp : Yields p P) (hq : Yields q P) : Yields (p <|> q) P := by
  intro text a rest h
  rcases orElse_eq_some h with h | ⟨-, h⟩
  · exact hp text a rest h
  · exact hq text a rest h

end Yields

end BlobRetrieval.Scan
