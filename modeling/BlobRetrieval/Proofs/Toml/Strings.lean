import BlobRetrieval.Toml.Text
import BlobRetrieval.Proofs.Text.Endings

/-!
# Strings and the ends of lines

A string on one line ends on it. A text over several lines runs to its closing quotes, and what
is read of it does not depend on what stands behind the line that it ends on.
-/

set_option autoImplicit false

namespace BlobRetrieval.Toml

open Scan

theorem basicText_inLine (state : TextState) (done : List Char) :
    InLine (basicText state done) := by
  refine InLine.of_steps (fun s : TextState × List Char => basicText s.1 s.2) ?_ ?_ ?_ (state, done)
  · rintro ⟨state, done⟩
    rfl
  · rintro ⟨state, done⟩ rest
    cases state <;> rfl
  · rintro ⟨state, done⟩ c
    cases state with
    | plain =>
      by_cases hquote : c = '"'
      · exact .inr (.inl ⟨done.reverse, fun text => by simp [basicText, hquote]⟩)
      · by_cases hslash : c = '\\'
        · exact .inr (.inr ⟨(.escape, done), fun text => by simp [basicText, hslash]⟩)
        · cases hplain : isPlain c with
          | true =>
            exact .inr (.inr ⟨(.plain, c :: done), fun text => by
              simp [basicText, hquote, hslash, hplain]⟩)
          | false => exact .inl fun text => by simp [basicText, hquote, hslash, hplain]
    | escape =>
      cases hstep : escapeStep done c with
      | none => exact .inl fun text => by simp [basicText, hstep]
      | some next => exact .inr (.inr ⟨next, fun text => by simp [basicText, hstep]⟩)
    | code left value =>
      cases hstep : codeStep left value done c with
      | none => exact .inl fun text => by simp [basicText, hstep]
      | some next => exact .inr (.inr ⟨next, fun text => by simp [basicText, hstep]⟩)
    | _ => exact .inl fun text => rfl

theorem literalText_inLine (done : List Char) : InLine (literalText done) := by
  refine InLine.of_steps literalText (fun _ => rfl) (fun _ _ => rfl) ?_ done
  intro done c
  by_cases hquote : c = '\''
  · exact .inr (.inl ⟨done.reverse, fun text => by simp [literalText, hquote]⟩)
  · cases hplain : isPlain c with
    | true => exact .inr (.inr ⟨c :: done, fun text => by simp [literalText, hquote, hplain]⟩)
    | false => exact .inl fun text => by simp [literalText, hquote, hplain]

theorem lineText_inLine : InLine lineText := by
  intro text
  cases text with
  | nil => exact .inl fun x hx => by cases hx <;> rfl
  | cons c text =>
    by_cases hbasic : c = '"'
    · subst hbasic
      rcases basicText_inLine .plain [] text with hnone | ⟨a, rest, hrest, hsome⟩
      · exact .inl hnone
      · exact .inr ⟨a, rest, hrest.trans (List.suffix_cons _ _), hsome⟩
    · by_cases hliteral : c = '\''
      · subst hliteral
        rcases literalText_inLine [] text with hnone | ⟨a, rest, hrest, hsome⟩
        · exact .inl hnone
        · exact .inr ⟨a, rest, hrest.trans (List.suffix_cons _ _), hsome⟩
      · exact .inl fun x _ => lineText.eq_3 _ (by simp [hbasic]) (by simp [hliteral])

theorem lineText_advances : Advances lineText := by
  intro text a rest h
  unfold lineText at h
  split at h
  · exact ⟨_, _, rfl, (basicText_inLine .plain []).leaves _ _ _ h⟩
  · exact ⟨_, _, rfl, (literalText_inLine []).leaves _ _ _ h⟩
  · cases h

section Block

variable {quote : Char} {escapes : Bool}

variable (quote escapes) in
theorem blockText_cons {state : TextState} (h : ∀ count, state ≠ .quotes count)
    (done : List Char) (c : Char) (text : List Char) :
    blockText quote escapes state done (c :: text) =
      if c = quote && state.betweenCharacters then blockText quote escapes (.quotes 1) done text
      else match blockStep escapes state done c with
        | some (next, done) => blockText quote escapes next done text
        | none => none := by
  cases state with
  | quotes count => exact absurd rfl (h count)
  | _ => rfl

def TextState.IsClosed (state : TextState) : Prop :=
  ∃ count, state = .quotes count ∧ 3 ≤ count

/-- What a reader of a text over several lines does with a character: it refuses it, ends behind
or in front of it, or goes on in another state. -/
theorem blockText_step (state : TextState) (done : List Char) (c : Char) :
    (∀ text, blockText quote escapes state done (c :: text) = none) ∨
    (∃ a, ∀ text, blockText quote escapes state done (c :: text) = some (a, text)) ∨
    (state.IsClosed ∧
      ∃ a, ∀ text, blockText quote escapes state done (c :: text) = some (a, c :: text)) ∨
    ∃ next done', ∀ text, blockText quote escapes state done (c :: text) =
      blockText quote escapes next done' text := by
  by_cases hquotes : ∃ count, state = .quotes count
  · obtain ⟨count, rfl⟩ := hquotes
    by_cases hc : c = quote
    · by_cases hcount : count = 4
      · exact .inr (.inl ⟨_, fun text => by simp [blockText, hc, hcount]; rfl⟩)
      · exact .inr (.inr (.inr ⟨.quotes (count + 1), done, fun text => by
          simp [blockText, hc, hcount]⟩))
    · by_cases hcount : 3 ≤ count
      · exact .inr (.inr (.inl ⟨⟨count, rfl, hcount⟩, _, fun text => by
          simp [blockText, hc, hcount]; rfl⟩))
      · cases hstep : blockPlain escapes (List.replicate count quote ++ done) c with
        | none => exact .inl fun text => by simp [blockText, hc, hcount, hstep]
        | some next =>
          exact .inr (.inr (.inr ⟨next.1, next.2, fun text => by
            simp [blockText, hc, hcount, hstep]⟩))
  · have hcons := blockText_cons quote escapes (fun count h => hquotes ⟨count, h⟩) done c
    by_cases hc : (c = quote && state.betweenCharacters) = true
    · exact .inr (.inr (.inr ⟨.quotes 1, done, fun text => by rw [hcons, if_pos hc]⟩))
    · cases hstep : blockStep escapes state done c with
      | none => exact .inl fun text => by rw [hcons, if_neg hc, hstep]
      | some next =>
        exact .inr (.inr (.inr ⟨next.1, next.2, fun text => by rw [hcons, if_neg hc, hstep]⟩))

theorem blockText_leaves (state : TextState) (done : List Char) :
    Leaves (blockText quote escapes state done) := by
  intro text a rest h
  induction text generalizing state done with
  | nil =>
    unfold blockText at h
    split at h
    · split at h
      · cases h
        exact List.suffix_rfl
      · cases h
    · cases h
  | cons c text ih =>
    rcases blockText_step state done c with hnone | ⟨a', ha⟩ | ⟨-, a', ha⟩ | ⟨next, done', hnext⟩
    · rw [hnone] at h
      cases h
    · rw [ha] at h
      cases h
      exact List.suffix_cons c _
    · rw [ha] at h
      cases h
      exact List.suffix_rfl
    · rw [hnext] at h
      exact (ih next done' h).trans (List.suffix_cons c text)

/-- A text that is closed ends in front of an ending. -/
theorem blockText_ending (hquote : quote ≠ '\n') {state : TextState} (done : List Char)
    (hclosed : state.IsClosed) :
    ∃ a, ∀ x, Ending x → blockText quote escapes state done x = some (a, x) := by
  obtain ⟨count, rfl, hcount⟩ := hclosed
  refine ⟨(List.replicate (count - 3) quote ++ done).reverse, fun x hx => ?_⟩
  cases hx with
  | nothing => rw [blockText, if_pos hcount]
  | newline rest => rw [blockText, if_neg (Ne.symm hquote), if_pos hcount]

/-- A text that ends in front of an ending is closed. -/
theorem isClosed_of_ending {state : TextState} {done rest a x : List Char} (hx : Ending x)
    (h : blockText quote escapes state done x = some (a, rest ++ x)) :
    state.IsClosed ∧ rest = [] := by
  cases hx with
  | nothing =>
    unfold blockText at h
    split at h
    · next count =>
      split at h
      · next hcount =>
        obtain ⟨-, hrest⟩ := Prod.mk.inj (Option.some.inj h)
        exact ⟨⟨count, rfl, hcount⟩, by simpa using hrest.symm⟩
      · cases h
    · cases h
  | newline text =>
    -- what is left has the line break, so the reader has not gone past it
    have hlong : ∀ {left : List Char}, left <:+ text → left ≠ rest ++ '\n' :: text := by
      rintro left hleft rfl
      have hlength := hleft.length_le
      simp only [List.length_append, List.length_cons] at hlength
      omega
    rcases blockText_step state done '\n' with hnone | ⟨a', ha⟩ | ⟨hclosed, a', ha⟩ | ⟨_, _, hnext⟩
    · rw [hnone] at h
      cases h
    · rw [ha] at h
      exact absurd (Prod.mk.inj (Option.some.inj h)).2 (hlong List.suffix_rfl)
    · rw [ha] at h
      have hrest := (Prod.mk.inj (Option.some.inj h)).2
      exact ⟨hclosed, List.self_eq_append_left.mp hrest⟩
    · rw [hnext] at h
      exact absurd rfl (hlong (blockText_leaves _ _ _ _ _ h))

theorem blockText_isLocal (hquote : quote ≠ '\n') (state : TextState) (done : List Char) :
    Local (blockText quote escapes state done) where
  leaves := blockText_leaves state done
  same text rest a x y hx hy h := by
    induction text generalizing state done with
    | nil =>
      obtain ⟨hclosed, rfl⟩ := isClosed_of_ending hx h
      obtain ⟨a', ha⟩ := blockText_ending hquote done hclosed
      rw [List.nil_append, ha x hx] at h
      cases h
      exact ha y hy
    | cons c text ih =>
      rw [List.cons_append] at h ⊢
      rcases blockText_step state done c with hnone | ⟨a', ha⟩ | ⟨-, a', ha⟩ | ⟨_, _, hnext⟩
      · rw [hnone] at h
        cases h
      · rw [ha] at h ⊢
        obtain ⟨rfl, hrest⟩ := Prod.mk.inj (Option.some.inj h)
        rw [List.append_cancel_right hrest]
      · rw [ha] at h ⊢
        obtain ⟨rfl, hrest⟩ := Prod.mk.inj (Option.some.inj h)
        rw [← List.cons_append] at hrest ⊢
        rw [List.append_cancel_right hrest]
      · rw [hnext] at h ⊢
        exact ih _ _ h

end Block

theorem dropNewline_suffix (text : List Char) : dropNewline text <:+ text := by
  unfold dropNewline
  split
  · exact List.suffix_cons _ _
  · exact (List.suffix_cons _ _).trans (List.suffix_cons _ _)
  · exact List.suffix_rfl

theorem dropNewline_of_ne {c : Char} {text : List Char} (hc : c ≠ '\n')
    (hreturn : c = '\r' → text.head? ≠ some '\n') : dropNewline (c :: text) = c :: text := by
  refine dropNewline.eq_3 _ (fun tail h => hc (List.cons.inj h).1) fun tail h => ?_
  obtain ⟨rfl, rfl⟩ := List.cons.inj h
  exact hreturn rfl rfl

/-- Only a line break that begins the text is dropped. -/
theorem dropNewline_append {text : List Char} (hnil : text ≠ []) (hreturn : text ≠ ['\r']) :
    ∃ rest, ∀ x, dropNewline (text ++ x) = rest ++ x := by
  match text, hnil, hreturn with
  | [c], _, hreturn =>
    by_cases hc : c = '\n'
    · subst hc
      exact ⟨[], fun _ => rfl⟩
    · exact ⟨[c], fun x => dropNewline_of_ne hc fun h => absurd (h ▸ rfl) hreturn⟩
  | c :: d :: rest, _, _ =>
    by_cases hc : c = '\n'
    · subst hc
      exact ⟨d :: rest, fun _ => rfl⟩
    · by_cases hboth : c = '\r' ∧ d = '\n'
      · obtain ⟨rfl, rfl⟩ := hboth
        exact ⟨rest, fun _ => rfl⟩
      · refine ⟨c :: d :: rest, fun x => dropNewline_of_ne hc fun h hd => hboth ⟨h, ?_⟩⟩
        exact Option.some.inj hd

section Opened

variable {quote : Char} {escapes : Bool}

/-- Three quotes that are followed by the end of the text, or by the ending of a line, open no
text that ends in front of it. -/
theorem blockText_opened (hquote : quote = '"' ∨ quote = '\'') {text rest a x : List Char}
    (hx : Ending x)
    (h : blockText quote escapes .plain [] (dropNewline (text ++ x)) = some (a, rest ++ x)) :
    text ≠ [] ∧ text ≠ ['\r'] := by
  have hlong : ∀ tail, x = '\n' :: tail →
      blockText quote escapes .plain [] tail ≠ some (a, rest ++ x) := by
    rintro tail rfl htail
    have hlength := (blockText_leaves _ _ _ _ _ htail).length_le
    simp only [List.length_append, List.length_cons] at hlength
    omega
  constructor
  · rintro rfl
    cases hx with
    | nothing => cases h
    | newline tail => exact hlong tail rfl h
  · rintro rfl
    cases hx with
    | nothing => rcases hquote with rfl | rfl <;> cases h
    | newline tail => exact hlong tail rfl h

theorem blockText_dropNewline_isLocal (hquote : quote = '"' ∨ quote = '\'') :
    Local fun text => blockText quote escapes .plain [] (dropNewline text) where
  leaves text a rest h :=
    (blockText_leaves _ _ _ _ _ h).trans (dropNewline_suffix text)
  same text rest a x y hx hy h := by
    obtain ⟨hnil, hreturn⟩ := blockText_opened hquote hx h
    obtain ⟨inner, hinner⟩ := dropNewline_append hnil hreturn
    have hne : quote ≠ '\n' := by rcases hquote with rfl | rfl <;> decide
    simp only [hinner] at h ⊢
    exact (blockText_isLocal hne .plain []).same inner rest a x y hx hy h

end Opened

theorem text_eq_lineText {input : List Char} (hbasic : ¬['"', '"', '"'] <+: input)
    (hliteral : ¬['\'', '\'', '\''] <+: input) : text input = lineText input := by
  refine text.eq_3 input (fun rest h => hbasic ?_) fun rest h => hliteral ?_
  · exact ⟨rest, h.symm⟩
  · exact ⟨rest, h.symm⟩

theorem text_advances : Advances text := by
  intro input a rest h
  unfold text at h
  split at h
  · have hrest := (blockText_dropNewline_isLocal (.inl rfl)).leaves _ _ _ h
    exact ⟨_, _, rfl, hrest.trans ((List.suffix_cons _ _).trans (List.suffix_cons _ _))⟩
  · have hrest := (blockText_dropNewline_isLocal (.inr rfl)).leaves _ _ _ h
    exact ⟨_, _, rfl, hrest.trans ((List.suffix_cons _ _).trans (List.suffix_cons _ _))⟩
  · exact lineText_advances _ _ _ h

theorem text_isLocal : Local text where
  leaves := text_advances.leaves
  same input rest a x y hx hy h := by
    by_cases hbasic : ['"', '"', '"'] <+: input
    · obtain ⟨input, rfl⟩ := hbasic
      exact (blockText_dropNewline_isLocal (.inl rfl)).same input rest a x y hx hy h
    · by_cases hliteral : ['\'', '\'', '\''] <+: input
      · obtain ⟨input, rfl⟩ := hliteral
        exact (blockText_dropNewline_isLocal (.inr rfl)).same input rest a x y hx hy h
      · have hline : ∀ {z}, Ending z → text (input ++ z) = lineText (input ++ z) := fun hz =>
          text_eq_lineText (fun hp => hbasic (hz.prefix_of_append (by decide) hp))
            fun hp => hliteral (hz.prefix_of_append (by decide) hp)
        rw [hline hx] at h
        rw [hline hy]
        exact lineText_inLine.isLocal.same input rest a x y hx hy h

end BlobRetrieval.Toml
