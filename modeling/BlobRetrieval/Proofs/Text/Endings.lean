import BlobRetrieval.Proofs.Text.Scan

/-!
# Scans and the ends of lines

A scan takes characters off the front. One that stays within a line reads the same there whether
the text ends with the line or goes on behind a line break.
-/

set_option autoImplicit false

namespace BlobRetrieval.Scan

variable {α β : Type} {p q : Scan α} {f : α → Scan β}

theorem bind_of_none {text : List Char} (h : p text = none) : (p >>= f) text = none := by
  change (p text).bind _ = none
  rw [h, Option.bind_none]

theorem bind_of_some {text rest : List Char} {a : α} (h : p text = some (a, rest)) :
    (p >>= f) text = f a rest := by
  change (p text).bind _ = f a rest
  rw [h, Option.bind_some]

def Leaves (p : Scan α) : Prop :=
  ∀ text a rest, p text = some (a, rest) → rest <:+ text

def Advances (p : Scan α) : Prop :=
  ∀ text a rest, p text = some (a, rest) → ∃ c tail, text = c :: tail ∧ rest <:+ tail

theorem Advances.leaves (h : Advances p) : Leaves p := by
  intro text a rest hp
  obtain ⟨c, tail, rfl, hrest⟩ := h text a rest hp
  exact hrest.trans (List.suffix_cons c tail)

theorem Advances.length_lt (h : Advances p) {text rest : List Char} {a : α}
    (hp : p text = some (a, rest)) : rest.length < text.length := by
  obtain ⟨c, tail, rfl, hrest⟩ := h text a rest hp
  exact Nat.lt_succ_of_le hrest.length_le

namespace Leaves

theorem pure (a : α) : Leaves (pure a : Scan α) := by
  intro text a' rest h
  cases h
  exact List.suffix_rfl

theorem bind (hp : Leaves p) (hf : ∀ a, Leaves (f a)) : Leaves (p >>= f) := by
  intro text b rest h
  obtain ⟨a, mid, ha, hb⟩ := bind_eq_some.mp h
  exact (hf a mid b rest hb).trans (hp text a mid ha)

theorem orElse (hp : Leaves p) (hq : Leaves q) : Leaves (p <|> q) := by
  intro text a rest h
  rcases orElse_eq_some h with h | ⟨-, h⟩
  · exact hp text a rest h
  · exact hq text a rest h

end Leaves

namespace Advances

/-- A scan advances if its first part does. -/
theorem bind (hp : Advances p) (hf : ∀ a, Leaves (f a)) : Advances (p >>= f) := by
  intro text b rest h
  obtain ⟨a, mid, ha, hb⟩ := bind_eq_some.mp h
  obtain ⟨c, tail, rfl, hmid⟩ := hp text a mid ha
  exact ⟨c, tail, rfl, (hf a mid b rest hb).trans hmid⟩

/-- A scan advances if what follows its first part does. -/
theorem after (hp : Leaves p) (hf : ∀ a, Advances (f a)) : Advances (p >>= f) := by
  intro text b rest h
  obtain ⟨a, mid, ha, hb⟩ := bind_eq_some.mp h
  obtain ⟨c, tail, rfl, hrest⟩ := hf a mid b rest hb
  obtain ⟨front, rfl⟩ := hp text a _ ha
  cases front with
  | nil => exact ⟨c, tail, rfl, hrest⟩
  | cons d front =>
    exact ⟨d, _, rfl, hrest.trans ((List.suffix_cons c tail).trans (List.suffix_append _ _))⟩

theorem orElse (hp : Advances p) (hq : Advances q) : Advances (p <|> q) := by
  intro text a rest h
  rcases orElse_eq_some h with h | ⟨-, h⟩
  · exact hp text a rest h
  · exact hq text a rest h

theorem one (class? : Char → Bool) : Advances (one class?) := by
  intro text c rest h
  cases text with
  | nil => cases h
  | cons d tail =>
    rw [Scan.one] at h
    split at h
    · cases h
      exact ⟨_, _, rfl, List.suffix_rfl⟩
    · cases h

theorem char (c : Char) : Advances (char c) := by
  intro text _ rest h
  exact ⟨c, rest, char_eq_some.mp h, List.suffix_rfl⟩

theorem word {cs : List Char} (h : cs ≠ []) : Advances (word cs) := by
  induction cs with
  | nil => exact absurd rfl h
  | cons c cs ih =>
    refine (Advances.char c).bind fun _ => ?_
    cases cs with
    | nil => exact .pure ()
    | cons d cs => exact (ih (List.cons_ne_nil d cs)).leaves

end Advances

inductive Ending : List Char → Prop
  | nothing : Ending []
  | newline (rest : List Char) : Ending ('\n' :: rest)

/-- What begins a text within a line begins it in front of the ending. -/
theorem Ending.prefix_of_append {front text x : List Char} (hx : Ending x) (hfront : '\n' ∉ front)
    (h : front <+: text ++ x) : front <+: text := by
  induction front generalizing text with
  | nil => exact List.nil_prefix
  | cons c front ih =>
    have hc : c ≠ '\n' := fun hc => hfront (hc ▸ List.mem_cons_self)
    cases text with
    | nil =>
      cases hx with
      | nothing => exact absurd (List.prefix_nil.mp h) (List.cons_ne_nil c front)
      | newline rest => exact absurd (List.cons_prefix_cons.mp h).1 hc
    | cons d text =>
      obtain ⟨hcd, htail⟩ := List.cons_prefix_cons.mp h
      exact List.cons_prefix_cons.mpr ⟨hcd, ih (fun hmem => hfront (List.mem_cons_of_mem c hmem)) htail⟩

def InLine (p : Scan α) : Prop :=
  ∀ text, (∀ x, Ending x → p (text ++ x) = none) ∨
    ∃ a rest, rest <:+ text ∧ ∀ x, Ending x → p (text ++ x) = some (a, rest ++ x)

theorem InLine.leaves (h : InLine p) : Leaves p := by
  intro text a rest hp
  rw [← List.append_nil text] at hp
  rcases h text with hnone | ⟨a', rest', hrest, hsome⟩
  · rw [hnone [] .nothing] at hp
    cases hp
  · rw [hsome [] .nothing, List.append_nil] at hp
    cases hp
    exact hrest

namespace InLine

theorem pure (a : α) : InLine (pure a : Scan α) :=
  fun text => .inr ⟨a, text, List.suffix_rfl, fun _ _ => rfl⟩

theorem failure : InLine (failure : Scan α) :=
  fun _ => .inl fun _ _ => rfl

theorem of_guard (c : Prop) [Decidable c] : InLine (guard c : Scan Unit) := by
  change InLine (if c then Pure.pure () else Alternative.failure : Scan Unit)
  split
  · exact .pure ()
  · exact .failure

theorem of_option (o : Option α) : InLine (liftM o : Scan α) := by
  cases o with
  | none => exact fun _ => .inl fun _ _ => rfl
  | some a => exact .pure a

theorem bind (hp : InLine p) (hf : ∀ a, InLine (f a)) : InLine (p >>= f) := by
  intro text
  rcases hp text with hnone | ⟨a, mid, hmid, hsome⟩
  · exact .inl fun x hx => bind_of_none (hnone x hx)
  · rcases hf a mid with hnone | ⟨b, rest, hrest, hsome'⟩
    · exact .inl fun x hx => (bind_of_some (hsome x hx)).trans (hnone x hx)
    · exact .inr ⟨b, rest, hrest.trans hmid,
        fun x hx => (bind_of_some (hsome x hx)).trans (hsome' x hx)⟩

theorem orElse (hp : InLine p) (hq : InLine q) : InLine (p <|> q) := by
  intro text
  rcases hp text with hnone | ⟨a, rest, hrest, hsome⟩
  · rcases hq text with hnone' | ⟨a, rest, hrest, hsome⟩
    · exact .inl fun x hx => by rw [orElse_apply, hnone x hx, hnone' x hx, Option.or_none]
    · exact .inr ⟨a, rest, hrest, fun x hx => by
        rw [orElse_apply, hnone x hx, hsome x hx, Option.none_or]⟩
  · exact .inr ⟨a, rest, hrest, fun x hx => by rw [orElse_apply, hsome x hx, Option.some_or]⟩

theorem map (hp : InLine p) (g : α → β) : InLine (g <$> p) := by
  rw [map_eq_pure_bind]
  exact hp.bind fun _ => .pure _

theorem one {class? : Char → Bool} (h : class? '\n' = false) : InLine (one class?) := by
  intro text
  cases text with
  | nil =>
    refine .inl fun x hx => ?_
    cases hx with
    | nothing => rfl
    | newline rest => simp [Scan.one, h]
  | cons c text =>
    cases hc : class? c with
    | false => exact .inl fun x _ => by simp [Scan.one, hc]
    | true => exact .inr ⟨c, text, List.suffix_cons c text, fun x _ => by simp [Scan.one, hc]⟩

theorem char {c : Char} (h : c ≠ '\n') : InLine (char c) := by
  intro text
  cases text with
  | nil =>
    refine .inl fun x hx => ?_
    cases hx with
    | nothing => rfl
    | newline rest => simp [Scan.char, Ne.symm h]
  | cons d text =>
    by_cases hd : d = c
    · exact .inr ⟨(), text, List.suffix_cons d text, fun x _ => by simp [Scan.char, hd]⟩
    · exact .inl fun x _ => by simp [Scan.char, hd]

theorem word {cs : List Char} (h : '\n' ∉ cs) : InLine (word cs) := by
  induction cs with
  | nil => exact .pure ()
  | cons c cs ih =>
    have hc : c ≠ '\n' := fun hc => h (hc ▸ List.mem_cons_self)
    exact (InLine.char hc).bind fun _ => ih fun hcs => h (List.mem_cons_of_mem c hcs)

theorem flag {cs : List Char} (h : '\n' ∉ cs) : InLine (flag cs) :=
  ((word h).bind fun _ => .pure true).orElse (.pure false)

theorem many {class? : Char → Bool} (h : class? '\n' = false) : InLine (many class?) := by
  intro text
  refine .inr ⟨text.takeWhile class?, text.dropWhile class?, List.dropWhile_suffix _, ?_⟩
  intro x hx
  have hstop : x.takeWhile class? = [] ∧ x.dropWhile class? = x := by
    cases hx with
    | nothing => exact ⟨rfl, rfl⟩
    | newline rest => simp [h]
  induction text with
  | nil => simp [Scan.many, hstop]
  | cons c text ih =>
    cases hc : class? c with
    | true => simpa [Scan.many, hc] using ih
    | false => simp [Scan.many, hc]

theorem many1 {class? : Char → Bool} (h : class? '\n' = false) : InLine (many1 class?) :=
  (one h).bind fun _ => (many h).bind fun _ => .pure _

/-- A machine that takes a character in every step and stops with the last one. -/
theorem of_steps {σ : Type} (run : σ → Scan α) (hnil : ∀ s, run s [] = none)
    (hnewline : ∀ s rest, run s ('\n' :: rest) = none)
    (hstep : ∀ s c, (∀ text, run s (c :: text) = none) ∨
      (∃ a, ∀ text, run s (c :: text) = some (a, text)) ∨
      ∃ next, ∀ text, run s (c :: text) = run next text) (s : σ) : InLine (run s) := by
  intro text
  induction text generalizing s with
  | nil =>
    refine .inl fun x hx => ?_
    cases hx with
    | nothing => exact hnil s
    | newline rest => exact hnewline s rest
  | cons c text ih =>
    rcases hstep s c with hnone | ⟨a, ha⟩ | ⟨next, hnext⟩
    · exact .inl fun x _ => hnone (text ++ x)
    · exact .inr ⟨a, text, List.suffix_cons c text, fun x _ => ha (text ++ x)⟩
    · rcases ih next with hnone | ⟨a, rest, hrest, hsome⟩
      · exact .inl fun x hx => (hnext (text ++ x)).trans (hnone x hx)
      · exact .inr ⟨a, rest, hrest.trans (List.suffix_cons c text),
          fun x hx => (hnext (text ++ x)).trans (hsome x hx)⟩

end InLine

structure Local (p : Scan α) : Prop where
  leaves : Leaves p
  same : ∀ text rest a x y, Ending x → Ending y → p (text ++ x) = some (a, rest ++ x) →
    p (text ++ y) = some (a, rest ++ y)

theorem InLine.isLocal (h : InLine p) : Local p where
  leaves := h.leaves
  same text rest a x y hx hy hp := by
    rcases h text with hnone | ⟨a', rest', -, hsome⟩
    · rw [hnone x hx] at hp
      cases hp
    · rw [hsome x hx] at hp
      obtain ⟨rfl, hrest⟩ := Prod.mk.inj (Option.some.inj hp)
      rw [hsome y hy, List.append_cancel_right hrest]

def Apart (p q : Scan α) : Prop :=
  ∀ text a rest, q text = some (a, rest) →
    ∃ c tail, text = c :: tail ∧ c ≠ '\n' ∧ ∀ other, p (c :: other) = none

theorem Apart.orElse {r : Scan α} (hq : Apart p q) (hr : Apart p r) : Apart p (q <|> r) := by
  intro text a rest h
  rcases orElse_eq_some h with h | ⟨-, h⟩
  · exact hq text a rest h
  · exact hr text a rest h

theorem Apart.char_bind {c : Char} {f : Unit → Scan α} (hc : c ≠ '\n')
    (h : ∀ other, p (c :: other) = none) : Apart p (char c >>= f) := by
  intro text a rest hq
  obtain ⟨_, mid, hchar, -⟩ := bind_eq_some.mp hq
  exact ⟨c, mid, char_eq_some.mp hchar, hc, h⟩

namespace Local

theorem bind (hp : Local p) (hf : ∀ a, Local (f a)) : Local (p >>= f) where
  leaves := hp.leaves.bind fun a => (hf a).leaves
  same text rest b x y hx hy h := by
    obtain ⟨a, mid, ha, hb⟩ := bind_eq_some.mp h
    obtain ⟨front, rfl⟩ := (hf a).leaves mid b _ hb
    rw [← List.append_assoc] at ha hb
    exact (bind_of_some (hp.same text _ a x y hx hy ha)).trans
      ((hf a).same _ rest b x y hx hy hb)

/-- An alternative behind one that stays within the line. -/
theorem orElse (hp : InLine p) (hq : Local q) : Local (p <|> q) where
  leaves := hp.leaves.orElse hq.leaves
  same text rest a x y hx hy h := by
    rw [orElse_apply] at h ⊢
    rcases hp text with hnone | ⟨a', rest', -, hsome⟩
    · rw [hnone x hx, Option.none_or] at h
      rw [hnone y hy, Option.none_or]
      exact hq.same text rest a x y hx hy h
    · rw [hsome x hx, Option.some_or] at h
      obtain ⟨rfl, hrest⟩ := Prod.mk.inj (Option.some.inj h)
      rw [hsome y hy, Option.some_or, List.append_cancel_right hrest]

/-- An alternative that the first character decides on. -/
theorem orElse_apart (hp : Local p) (hq : Local q) (hapart : Apart p q) : Local (p <|> q) where
  leaves := hp.leaves.orElse hq.leaves
  same text rest a x y hx hy h := by
    rcases orElse_eq_some h with h | ⟨-, h⟩
    · rw [orElse_apply, hp.same text rest a x y hx hy h, Option.some_or]
    · obtain ⟨c, tail, htail, hc, hnone⟩ := hapart _ _ _ h
      have hfront : '\n' ∉ [c] := fun hmem => hc (List.mem_singleton.mp hmem).symm
      obtain ⟨front, rfl⟩ := hx.prefix_of_append hfront ⟨tail, htail.symm⟩
      rw [orElse_apply, hq.same _ rest a x y hx hy h, List.append_assoc, List.singleton_append,
        hnone, Option.none_or]

end Local

end BlobRetrieval.Scan
