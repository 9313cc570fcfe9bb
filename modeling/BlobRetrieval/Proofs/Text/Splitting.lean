/-!
# Texts that come apart in one way

Characters of one kind in front can be told from what follows, if what follows begins with none
of that kind. So a text of lines that each end in a newline comes apart into these lines alone.
-/

set_option autoImplicit false

namespace BlobRetrieval

variable {α : Type}

theorem takeWhile_front_eq {p : α → Bool} {front rest : List α} (hfront : ∀ a ∈ front, p a = true)
    (hrest : ∀ a ∈ rest.head?, p a = false) : (front ++ rest).takeWhile p = front := by
  rw [List.takeWhile_append_of_pos hfront]
  cases rest with
  | nil => rw [List.takeWhile_nil, List.append_nil]
  | cons a rest =>
    have ha : p a = false := hrest a rfl
    rw [List.takeWhile_cons_of_neg (Bool.eq_false_iff.mp ha), List.append_nil]

/-- Two fronts of one kind, with nothing of that kind behind them, are the same in the same text. -/
theorem append_inj_of_head {p : α → Bool} {front other rest left : List α}
    (hfront : ∀ a ∈ front, p a = true) (hother : ∀ a ∈ other, p a = true)
    (hrest : ∀ a ∈ rest.head?, p a = false) (hleft : ∀ a ∈ left.head?, p a = false)
    (h : front ++ rest = other ++ left) : front = other ∧ rest = left := by
  have hsame : front = other := by
    rw [← takeWhile_front_eq hfront hrest, h, takeWhile_front_eq hother hleft]
  rw [hsame] at h
  exact ⟨hsame, List.append_cancel_left h⟩

/-- The first newline of a text ends the same line, however it has been found. -/
theorem line_inj {line other rest left : List Char} (hline : '\n' ∉ line) (hother : '\n' ∉ other)
    (h : line ++ '\n' :: rest = other ++ '\n' :: left) : line = other ∧ rest = left := by
  have hkind {text : List Char} (ht : '\n' ∉ text) : ∀ c ∈ text, decide (c ≠ '\n') = true := by
    intro c hc
    exact decide_eq_true fun heq => ht (heq ▸ hc)
  have hend (text : List Char) : ∀ c ∈ ('\n' :: text).head?, decide (c ≠ '\n') = false := by
    intro c hc
    cases hc
    rfl
  obtain ⟨hsame, hbehind⟩ :=
    append_inj_of_head (hkind hline) (hkind hother) (hend rest) (hend left) h
  exact ⟨hsame, List.tail_eq_of_cons_eq hbehind⟩

def ofLines (lines : List (List Char)) : List Char :=
  lines.flatMap (· ++ ['\n'])

theorem ofLines_cons (line : List Char) (lines : List (List Char)) :
    ofLines (line :: lines) = line ++ '\n' :: ofLines lines := by
  rw [ofLines, List.flatMap_cons, List.append_assoc]
  rfl

theorem ofLines_ne_nil (line : List Char) (lines : List (List Char)) :
    ofLines (line :: lines) ≠ [] := by
  rw [ofLines_cons]
  exact List.append_ne_nil_of_right_ne_nil line (List.cons_ne_nil _ _)

theorem ofLines_inj {lines others : List (List Char)} (hlines : ∀ line ∈ lines, '\n' ∉ line)
    (hothers : ∀ line ∈ others, '\n' ∉ line) (h : ofLines lines = ofLines others) :
    lines = others := by
  induction lines generalizing others with
  | nil =>
    cases others with
    | nil => rfl
    | cons other others => exact absurd h.symm (ofLines_ne_nil other others)
  | cons line lines ih =>
    cases others with
    | nil => exact absurd h (ofLines_ne_nil line lines)
    | cons other others =>
      obtain ⟨hline, hmore⟩ := List.forall_mem_cons.mp hlines
      obtain ⟨hother, hmoreOthers⟩ := List.forall_mem_cons.mp hothers
      rw [ofLines_cons, ofLines_cons] at h
      obtain ⟨hsame, hrest⟩ := line_inj hline hother h
      rw [hsame, ih hmore hmoreOthers hrest]

end BlobRetrieval
