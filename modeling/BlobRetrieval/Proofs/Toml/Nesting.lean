import BlobRetrieval.Proofs.Toml.Scalars

/-!
# Arrays and tables in braces

A value may run over several lines. What is read of it does not depend on what stands behind the
line that it ends on.
-/

set_option autoImplicit false

namespace BlobRetrieval.Toml

open Scan

variable {α β : Type} {p : Scan α} {f : α → Scan β}

theorem pastLayout_suffix (inComment : Bool) (text : List Char) :
    pastLayout inComment text <:+ text := by
  induction text generalizing inComment with
  | nil => exact List.suffix_rfl
  | cons c text ih =>
    rw [pastLayout]
    split
    · exact (ih false).trans (List.suffix_cons c text)
    · split
      · exact (ih true).trans (List.suffix_cons c text)
      · split
        · exact (ih false).trans (List.suffix_cons c text)
        · split
          · exact (ih true).trans (List.suffix_cons c text)
          · exact List.suffix_rfl

theorem layout_leaves : Leaves layout := by
  intro text _ rest h
  cases h
  exact pastLayout_suffix false text

-- Only a carriage return looks ahead, for what comes next.
theorem pastLayout_char (inComment : Bool) (c : Char) (next : Option Char) :
    (∃ still, ∀ text, (c = '\r' → text.head? = next) →
        pastLayout inComment (c :: text) = pastLayout still text) ∨
      ∀ text, (c = '\r' → text.head? = next) → pastLayout inComment (c :: text) = c :: text := by
  have hbreak : ∀ text : List Char, (c = '\r' → text.head? = next) →
      (c = '\n' || (c = '\r' && text.head? = some '\n')) =
        (c = '\n' || (c = '\r' && next = some '\n')) := by
    intro text h
    by_cases hc : c = '\r'
    · rw [h hc]
    · simp [hc]
  by_cases hend : (c = '\n' || (c = '\r' && next = some '\n')) = true
  · exact .inl ⟨false, fun text h => by rw [pastLayout, hbreak text h, if_pos hend]⟩
  by_cases hplain : (inComment && isPlain c) = true
  · exact .inl ⟨true, fun text h => by
      rw [pastLayout, hbreak text h, if_neg hend, if_pos hplain]⟩
  by_cases hspace : (!inComment && isSpace c) = true
  · exact .inl ⟨false, fun text h => by
      rw [pastLayout, hbreak text h, if_neg hend, if_neg hplain, if_pos hspace]⟩
  by_cases hremark : (!inComment && c = '#') = true
  · exact .inl ⟨true, fun text h => by
      rw [pastLayout, hbreak text h, if_neg hend, if_neg hplain, if_neg hspace, if_pos hremark]⟩
  · exact .inr fun text h => by
      rw [pastLayout, hbreak text h, if_neg hend, if_neg hplain, if_neg hspace, if_neg hremark]

/-- Layout that is passed over in front of an ending is passed over in front of every one. -/
theorem pastLayout_append {x : List Char} (hx : Ending x) (y : List Char) {c : Char}
    (hc : c ≠ '\r') (rest : List Char) (text : List Char) (inComment : Bool)
    (h : pastLayout inComment (text ++ x) = c :: rest ++ x) :
    pastLayout inComment (text ++ y) = c :: rest ++ y := by
  have hlong : ∀ inComment, pastLayout inComment x ≠ c :: rest ++ x := by
    intro inComment hpast
    have hlength := (pastLayout_suffix inComment x).length_le
    rw [hpast] at hlength
    simp only [List.length_append, List.length_cons] at hlength
    omega
  induction text generalizing inComment with
  | nil => exact absurd h (hlong inComment)
  | cons d text ih =>
    -- a carriage return cannot be the last character in front of `x`
    have hbreak : d = '\r' → text ≠ [] := by
      rintro rfl rfl
      cases hx with
      | nothing =>
        cases inComment <;> exact hc (List.cons.inj h).1.symm
      | newline tail => exact hlong false h
    have hhead : d = '\r' → (text ++ y).head? = (text ++ x).head? := by
      intro hd
      obtain ⟨e, tail, rfl⟩ := List.exists_cons_of_ne_nil (hbreak hd)
      rfl
    rw [List.cons_append] at h ⊢
    rcases pastLayout_char inComment d (text ++ x).head? with ⟨still, hpassed⟩ | hkept
    · rw [hpassed _ fun _ => rfl] at h
      rw [hpassed _ hhead]
      exact ih still h
    · rw [hkept _ fun _ => rfl] at h
      rw [hkept _ hhead]
      obtain ⟨rfl, htext⟩ := List.cons.inj h
      rw [List.append_cancel_right htext, List.cons_append]

def Begins (p : Scan α) : Prop :=
  ∀ text a rest, p text = some (a, rest) → ∃ c tail, text = c :: tail ∧ c ≠ '\r' ∧ rest <:+ tail

namespace Begins

theorem of_advances (h : Advances p) (hreturn : ∀ text, p ('\r' :: text) = none) : Begins p := by
  intro text a rest hp
  obtain ⟨c, tail, rfl, hrest⟩ := h text a rest hp
  refine ⟨c, tail, rfl, ?_, hrest⟩
  rintro rfl
  rw [hreturn] at hp
  cases hp

theorem advances (h : Begins p) : Advances p := by
  intro text a rest hp
  obtain ⟨c, tail, htext, -, hrest⟩ := h text a rest hp
  exact ⟨c, tail, htext, hrest⟩

theorem char {c : Char} (h : c ≠ '\r') : Begins (char c) := by
  refine of_advances (.char c) fun text => ?_
  rw [Scan.char, if_neg (Ne.symm h)]

theorem bind (hp : Begins p) (hf : ∀ a, Leaves (f a)) : Begins (p >>= f) := by
  intro text b rest h
  obtain ⟨a, mid, ha, hb⟩ := bind_eq_some.mp h
  obtain ⟨c, tail, htext, hc, hmid⟩ := hp text a mid ha
  exact ⟨c, tail, htext, hc, (hf a mid b rest hb).trans hmid⟩

/-- A choice between a character and what begins otherwise. -/
theorem flag {c : Char} (hc : c ≠ '\r') {choice : Bool → Scan β} (htrue : Leaves (choice true))
    (hfalse : Begins (choice false)) : Begins (flag [c] >>= choice) := by
  intro text b rest h
  obtain ⟨found, mid, hflag, hb⟩ := bind_eq_some.mp h
  rcases orElse_eq_some hflag with hword | ⟨-, hword⟩
  · obtain ⟨_, left, hchar, hpure⟩ := bind_eq_some.mp hword
    cases hpure
    obtain ⟨d, tail, htext, hd, hleft⟩ := (char hc).bind (fun _ => .pure ()) text _ _ hchar
    exact ⟨d, tail, htext, hd, (htrue _ _ _ hb).trans hleft⟩
  · cases hword
    exact hfalse _ _ _ hb

end Begins

theorem layout_bind_isLocal (hp : Local p) (hb : Begins p) : Local (layout >>= fun _ => p) where
  leaves := layout_leaves.bind fun _ => hp.leaves
  same text rest a x y hx hy h := by
    change p (pastLayout false (text ++ x)) = _ at h
    change p (pastLayout false (text ++ y)) = _
    obtain ⟨c, tail, hcons, hc, front, hfront⟩ := hb _ _ _ h
    have hpast : pastLayout false (text ++ x) = c :: (front ++ rest) ++ x := by
      rw [hcons, ← hfront, List.cons_append, List.append_assoc]
    rw [hpast] at h
    rw [pastLayout_append hx y hc (front ++ rest) text false hpast]
    exact hp.same _ rest a x y hx hy h

def afterElement (value : Scan Node) (rounds : Nat) (done : List Node) : Scan (List Node) :=
  flag [','] >>= fun comma =>
    if comma then elements value rounds done else char ']' >>= fun _ => pure done.reverse

theorem elements_succ (value : Scan Node) (n : Nat) (done : List Node) :
    elements value (n + 1) done = layout >>= fun _ => flag [']'] >>= fun closed =>
      if closed then pure done.reverse
      else value >>= fun item => layout >>= fun _ => afterElement value n (item :: done) :=
  rfl

theorem afterElement_begins {value : Scan Node} {n : Nat} {done : List Node}
    (h : Leaves (elements value n done)) : Begins (afterElement value n done) :=
  .flag (by decide) h ((Begins.char (by decide)).bind fun _ => .pure _)

section Arrays

variable {value : Scan Node} (hlocal : Local value) (hbegins : Begins value)

include hlocal hbegins

theorem elements_isLocal (n : Nat) (done : List Node) : Local (elements value n done) := by
  induction n generalizing done with
  | zero => exact ⟨nofun, nofun⟩
  | succ n ih =>
    have hafter : ∀ item, Local (afterElement value n (item :: done)) := by
      refine fun item => (InLine.flag (by decide)).isLocal.bind fun comma => ?_
      cases comma with
      | true => exact ih (item :: done)
      | false => exact ((InLine.char (by decide)).bind fun _ => .pure _).isLocal
    have hlayout : ∀ item, Local (layout >>= fun _ => afterElement value n (item :: done)) :=
      fun item => layout_bind_isLocal (hafter item) (afterElement_begins (ih _).leaves)
    rw [elements_succ]
    refine layout_bind_isLocal ?_ (.flag (by decide) (.pure _) ?_)
    · refine (InLine.flag (by decide)).isLocal.bind fun closed => ?_
      cases closed with
      | true => exact (InLine.pure _).isLocal
      | false => exact hlocal.bind hlayout
    · exact hbegins.bind fun item => (hlayout item).leaves

theorem array_isLocal (rounds : Nat) : Local (array rounds value) :=
  (InLine.char (by decide)).isLocal.bind fun _ => (elements_isLocal hlocal hbegins _ _).bind
    fun _ => (InLine.pure _).isLocal

end Arrays

def afterMember (value : Scan Node) (rounds : Nat) (entries : Entries) : Scan Entries :=
  spaces >>= fun _ => flag [','] >>= fun comma =>
    if comma then members value rounds entries else char '\x7d' >>= fun _ => pure entries

theorem members_succ (value : Scan Node) (n : Nat) (entries : Entries) :
    members value (n + 1) entries = assignment value >>= fun member =>
      (liftM (entries.insertDotted member.1.1 member.1.2 member.2) : Scan Entries) >>=
        afterMember value n :=
  rfl

theorem afterMember_isLocal {value : Scan Node} {n : Nat} {entries : Entries}
    (h : Local (members value n entries)) : Local (afterMember value n entries) := by
  refine spaces_inLine.isLocal.bind fun _ => (InLine.flag (by decide)).isLocal.bind fun comma => ?_
  cases comma with
  | true => exact h
  | false => exact ((InLine.char (by decide)).bind fun _ => .pure _).isLocal

section Tables

variable {value : Scan Node} (hlocal : Local value)

include hlocal

theorem assignment_isLocal : Local (assignment value) :=
  keyPath_inLine.isLocal.bind fun _ => (InLine.char (by decide)).isLocal.bind fun _ =>
    spaces_inLine.isLocal.bind fun _ => hlocal.bind fun _ => (InLine.pure _).isLocal

theorem members_isLocal (n : Nat) (entries : Entries) : Local (members value n entries) := by
  induction n generalizing entries with
  | zero => exact ⟨nofun, nofun⟩
  | succ n ih =>
    rw [members_succ]
    exact (assignment_isLocal hlocal).bind fun member => (InLine.of_option _).isLocal.bind
      fun entries => afterMember_isLocal (ih entries)

theorem inlineTable_isLocal (rounds : Nat) : Local (inlineTable rounds value) := by
  refine (InLine.char (by decide)).isLocal.bind fun _ => spaces_inLine.isLocal.bind fun _ =>
    (InLine.flag (by decide)).isLocal.bind fun closed => ?_
  cases closed with
  | true => exact (InLine.pure _).isLocal
  | false => exact (members_isLocal hlocal _ _).bind fun _ => (InLine.pure _).isLocal

end Tables

theorem value_succ_isLocal {rounds depth : Nat} (hlocal : Local (value rounds depth))
    (hbegins : Begins (value rounds depth)) : Local (value rounds (depth + 1)) := by
  have htable := inlineTable_isLocal hlocal rounds
  have harray := array_isLocal hlocal hbegins rounds
  refine scalar_isLocal.orElse_apart (harray.orElse_apart htable ?_) (.orElse ?_ ?_)
  · exact .char_bind (by decide) fun _ => rfl
  · exact .char_bind (by decide) fun _ => rfl
  · exact .char_bind (by decide) fun _ => rfl

theorem value_succ_begins {rounds depth : Nat} (hlocal : Local (value rounds depth))
    (hbegins : Begins (value rounds depth)) : Begins (value rounds (depth + 1)) := by
  have hlayout : ∀ done, Leaves (elements (value rounds depth) rounds done) := fun done =>
    (elements_isLocal hlocal hbegins rounds done).leaves
  have hmembers := (members_isLocal hlocal rounds []).leaves
  refine .of_advances (scalar_advances.orElse (.orElse ?_ ?_)) fun _ => rfl
  · exact (Advances.char '[').bind fun _ => (hlayout []).bind fun _ => .pure _
  · refine (Advances.char '\x7b').bind fun _ => spaces_inLine.leaves.bind fun _ =>
      (InLine.flag (by decide)).leaves.bind fun closed => ?_
    cases closed with
    | true => exact .pure _
    | false => exact hmembers.bind fun _ => .pure _

theorem value_isLocal (rounds depth : Nat) :
    Local (value rounds depth) ∧ Begins (value rounds depth) := by
  induction depth with
  | zero => exact ⟨scalar_isLocal, .of_advances scalar_advances fun _ => rfl⟩
  | succ depth ih => exact ⟨value_succ_isLocal ih.1 ih.2, value_succ_begins ih.1 ih.2⟩

theorem statement_isLocal (rounds : Nat) : Local (statement rounds) := by
  refine .orElse ?_ (.orElse ?_ ?_)
  · exact (InLine.word (by decide)).bind fun _ => keyPath_inLine.bind fun _ =>
      (InLine.word (by decide)).bind fun _ => .pure _
  · exact (InLine.char (by decide)).bind fun _ => keyPath_inLine.bind fun _ =>
      (InLine.char (by decide)).bind fun _ => .pure _
  · exact (assignment_isLocal (value_isLocal rounds _).1).bind fun _ => (InLine.pure _).isLocal

end BlobRetrieval.Toml
