import BlobRetrieval.Proofs.Toml.Nesting

/-!
# How many rounds a reader takes

Every round of a loop takes a character. What is read of a text with any number of rounds is read
with as many as the text has characters.
-/

set_option autoImplicit false

namespace BlobRetrieval.Toml

open Scan

variable {α β : Type} {p q : Scan α} {f g : α → Scan β} {m : Nat}

def Follows (m : Nat) (p q : Scan α) : Prop :=
  ∀ text a rest, text.length ≤ m → p text = some (a, rest) → q text = some (a, rest)

namespace Follows

theorem refl (m : Nat) (p : Scan α) : Follows m p p :=
  fun _ _ _ _ h => h

theorem mono {n : Nat} (h : Follows m p q) (hn : n ≤ m) : Follows n p q :=
  fun text a rest hlength hp => h text a rest (Nat.le_trans hlength hn) hp

theorem bind (hp : Follows m p q) (hleaves : Leaves p) (hf : ∀ a, Follows m (f a) (g a)) :
    Follows m (p >>= f) (q >>= g) := by
  intro text b rest hlength h
  obtain ⟨a, mid, ha, hb⟩ := bind_eq_some.mp h
  have hmid := (hleaves text a mid ha).length_le
  exact bind_eq_some.mpr
    ⟨a, mid, hp text a mid hlength ha, hf a mid b rest (Nat.le_trans hmid hlength) hb⟩

/-- What comes behind a character has one less to read. -/
theorem bind_advances (hp : Follows (m + 1) p q) (hadvances : Advances p)
    (hf : ∀ a, Follows m (f a) (g a)) : Follows (m + 1) (p >>= f) (q >>= g) := by
  intro text b rest hlength h
  obtain ⟨a, mid, ha, hb⟩ := bind_eq_some.mp h
  have hmid := hadvances.length_lt ha
  exact bind_eq_some.mpr ⟨a, mid, hp text a mid hlength ha,
    hf a mid b rest (Nat.le_of_lt_succ (Nat.lt_of_lt_of_le hmid hlength)) hb⟩

theorem orElse_right (p : Scan α) {q r : Scan α} (h : Follows m q r) :
    Follows m (p <|> q) (p <|> r) := by
  intro text a rest hlength hp
  rw [orElse_apply] at hp ⊢
  cases hfirst : p text with
  | none =>
    rw [hfirst, Option.none_or] at hp
    rw [Option.none_or]
    exact h text a rest hlength hp
  | some first =>
    rw [hfirst, Option.some_or] at hp
    rw [Option.some_or]
    exact hp

theorem orElse_apart {p' q' : Scan α} (hp : Follows m p p') (hq : Follows m q q')
    (hapart : Apart p' q) : Follows m (p <|> q) (p' <|> q') := by
  intro text a rest hlength h
  rw [orElse_apply]
  rcases orElse_eq_some h with h | ⟨-, h⟩
  · rw [hp text a rest hlength h, Option.some_or]
  · obtain ⟨c, tail, rfl, -, hnone⟩ := hapart text a rest h
    rw [hnone, Option.none_or]
    exact hq _ a rest hlength h

/-- A scan that takes a character reads nothing of an empty text. -/
theorem of_advances (h : Advances p) (q : Scan α) : Follows 0 p q := by
  intro text a rest hlength hp
  have hlt := h.length_lt hp
  omega

end Follows

section Items

variable {value value' : Scan Node} (hlocal : Local value) (hbegins : Begins value)

include hlocal hbegins

theorem elements_advances (n : Nat) (done : List Node) : Advances (elements value n done) := by
  cases n with
  | zero => exact nofun
  | succ n =>
    rw [elements_succ]
    refine .after layout_leaves fun _ => Begins.advances (.flag (by decide) (.pure _) ?_)
    exact hbegins.bind fun item => layout_leaves.bind fun _ =>
      (afterElement_begins (elements_isLocal hlocal hbegins n _).leaves).advances.leaves

theorem elements_follows (n : Nat) (done : List Node) (h : Follows m value value') :
    Follows m (elements value n done) (elements value' m done) := by
  induction n generalizing m done with
  | zero => exact nofun
  | succ n ih =>
    cases m with
    | zero => exact .of_advances (elements_advances hlocal hbegins (n + 1) done) _
    | succ m =>
      have hafter : ∀ item, Follows m (afterElement value n (item :: done))
          (afterElement value' m (item :: done)) := by
        refine fun item => (Follows.refl m _).bind (InLine.flag (by decide)).leaves fun comma => ?_
        cases comma with
        | true => exact ih (item :: done) (h.mono (Nat.le_succ m))
        | false => exact .refl m _
      rw [elements_succ, elements_succ]
      refine (Follows.refl _ _).bind layout_leaves fun _ =>
        (Follows.refl _ _).bind (InLine.flag (by decide)).leaves fun closed => ?_
      cases closed with
      | true => exact .refl _ _
      | false =>
        exact h.bind_advances hbegins.advances fun item =>
          (Follows.refl m _).bind layout_leaves fun _ => hafter item

theorem array_follows (rounds : Nat) (h : Follows m value value') :
    Follows m (array rounds value) (array m value') :=
  (Follows.refl m _).bind (Advances.char _).leaves fun _ =>
    (elements_follows hlocal hbegins rounds [] h).bind (elements_isLocal hlocal hbegins _ _).leaves
      fun _ => .refl m _

omit hbegins

theorem assignment_advances : Advances (assignment value) :=
  .after keyPath_inLine.leaves fun _ => (Advances.char _).bind fun _ =>
    spaces_inLine.leaves.bind fun _ => hlocal.leaves.bind fun _ => .pure _

omit hlocal in
theorem assignment_follows (h : Follows m value value') (hleaves : Leaves value) :
    Follows m (assignment value) (assignment value') :=
  (Follows.refl m _).bind keyPath_inLine.leaves fun _ =>
    (Follows.refl m _).bind (Advances.char _).leaves fun _ =>
      (Follows.refl m _).bind spaces_inLine.leaves fun _ => h.bind hleaves fun _ => .refl m _

theorem members_follows (n : Nat) (entries : Entries) (h : Follows m value value') :
    Follows m (members value n entries) (members value' m entries) := by
  induction n generalizing m entries with
  | zero => exact nofun
  | succ n ih =>
    have hadvances := assignment_advances hlocal
    cases m with
    | zero =>
      refine .of_advances ?_ _
      rw [members_succ]
      exact hadvances.bind fun _ => (InLine.of_option _).leaves.bind fun entries =>
        (afterMember_isLocal (members_isLocal hlocal n entries)).leaves
    | succ m =>
      rw [members_succ, members_succ]
      refine (assignment_follows h hlocal.leaves).bind_advances hadvances fun member =>
        (Follows.refl m _).bind (InLine.of_option _).leaves fun entries =>
          (Follows.refl m _).bind spaces_inLine.leaves fun _ =>
            (Follows.refl m _).bind (InLine.flag (by decide)).leaves fun comma => ?_
      cases comma with
      | true => exact ih entries (h.mono (Nat.le_succ m))
      | false => exact .refl m _

theorem inlineTable_follows (rounds : Nat) (h : Follows m value value') :
    Follows m (inlineTable rounds value) (inlineTable m value') := by
  refine (Follows.refl m _).bind (Advances.char _).leaves fun _ =>
    (Follows.refl m _).bind spaces_inLine.leaves fun _ =>
      (Follows.refl m _).bind (InLine.flag (by decide)).leaves fun closed => ?_
  cases closed with
  | true => exact .refl m _
  | false =>
    exact (members_follows hlocal rounds [] h).bind (members_isLocal hlocal _ _).leaves
      fun _ => .refl m _

end Items

theorem value_follows (m rounds depth : Nat) :
    Follows m (value rounds depth) (value m depth) := by
  induction depth with
  | zero => exact .refl m scalar
  | succ depth ih =>
    obtain ⟨hlocal, hbegins⟩ := value_isLocal rounds depth
    refine .orElse_right scalar (.orElse_apart (array_follows hlocal hbegins rounds ih)
      (inlineTable_follows hlocal rounds ih) ?_)
    exact .char_bind (by decide) fun _ => rfl

theorem statement_follows (m rounds : Nat) :
    Follows m (statement rounds) (statement m) :=
  .orElse_right _ (.orElse_right _
    ((assignment_follows (value_follows m rounds _) (value_isLocal rounds _).1.leaves).bind
      (assignment_isLocal (value_isLocal rounds _).1).leaves fun _ => .refl m _))

theorem line_follows (m rounds : Nat) : Follows m (line rounds) (line m) :=
  .orElse_right _ ((Follows.refl m _).bind spaces_inLine.leaves fun _ =>
    (statement_follows m rounds).bind (statement_isLocal rounds).leaves fun _ => .refl m _)

end BlobRetrieval.Toml
