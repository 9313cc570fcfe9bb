import BlobRetrieval.Proofs.Json.Numbers

/-!
# Values that are passed over

A reader that skips a value passes over exactly the value, whatever its shape. The brackets
that are open lie on a stack; below a value the stack stays as it was, so behind the value the
reader goes on as it would behind any item. Every item takes a round, and has a byte at least.
-/

set_option autoImplicit false

namespace BlobRetrieval.Json

open Reader

theorem scanSkipped_ordinary (bytes rest : Bytes) (h : ∀ b ∈ bytes, Ordinary b) :
    scanSkipped .plain (bytes ++ rest) = scanSkipped .plain rest := by
  induction bytes with
  | nil => rfl
  | cons b bytes ih =>
    obtain ⟨hquote, hbackslash, hcontrol⟩ := h b List.mem_cons_self
    rw [List.cons_append, scanSkipped]
    simp only [if_neg hquote, if_neg hbackslash, if_neg hcontrol]
    exact ih fun c hc => h c (List.mem_cons_of_mem b hc)

theorem scanSkipped_unit {digits : Bytes} {n : Nat} (h : CodeUnit digits n) (rest : Bytes) :
    scanSkipped .plain (92 :: 117 :: (digits ++ rest)) = scanSkipped .plain rest := by
  obtain ⟨a, b, c, d, p, q, r, s, ha, hb, hc, hd⟩ := h
  simp [scanSkipped, ha, hb, hc, hd]

theorem scanSkipped_charText {c : Char} {bytes : Bytes} (h : CharText c bytes) (rest : Bytes) :
    scanSkipped .plain (bytes ++ rest) = scanSkipped .plain rest := by
  cases h with
  | plain _ hl hquote hbackslash =>
    exact scanSkipped_ordinary _ rest (ordinary_encodeChar c hl hquote hbackslash)
  | short letter b h =>
    have hu : letter ≠ 117 := by
      rintro rfl
      contradiction
    simp [scanSkipped, hu, h]
  | unit digits n hunit _ => exact scanSkipped_unit hunit rest
  | pair first second high low hfirst hsecond _ _ _ _ =>
    have hfront := scanSkipped_unit hfirst (92 :: 117 :: (second ++ rest))
    rw [scanSkipped_unit hsecond] at hfront
    simpa using hfront

theorem on_skipString {text : List Char} {body : Bytes} (h : StringText text body)
    (rest : Bytes) : on skipString (body ++ 34 :: rest) = (.ok (), rest) := by
  have hscan : scanSkipped .plain (body ++ 34 :: rest) = (.ok (), rest) := by
    induction h with
    | nil => rfl
    | cons c text bytes more hc _ ih =>
      rw [List.append_assoc, scanSkipped_charText hc, ih]
  rw [skipString, on_bind_ok (on_get _), hscan]
  rfl

theorem on_skipDigits {ds more : Bytes} (hd : Digits ds) (hm : NoDigit more) :
    on skipDigits (ds ++ more) = (.ok (), more) := by
  have hdigits := congrArg Prod.snd (on_digits hd hm)
  exact Prod.ext rfl hdigits

theorem on_skipExponent (letter : UInt8) {sign ds rest : Bytes}
    (hs : sign = [] ∨ sign = [43] ∨ sign = [45]) (hne : ds ≠ []) (hd : Digits ds)
    (hr : Apart rest) : on skipExponent (letter :: (sign ++ ds) ++ rest) = (.ok (), rest) := by
  obtain ⟨positive, hsign⟩ := on_exponentSign hs hne hd
  obtain ⟨d, more, rfl⟩ := List.exists_cons_of_ne_nil hne
  have hpeek : on peek (d :: more ++ rest) = (.ok (some d), d :: more ++ rest) := rfl
  rw [skipExponent, List.cons_append]
  apply (on_bind_ok (on_advance _)).trans
  rw [List.tail_cons, on_bind_ok (hsign rest), on_bind_ok hpeek]
  apply (on_bind_ok (on_advance _)).trans
  rw [if_pos (hd d List.mem_cons_self)]
  exact on_skipDigits (fun b hb => hd b (List.mem_cons_of_mem d hb)) hr.noDigit

/-- What follows the digits of a fraction is passed over if it is an exponent. -/
theorem on_skipFraction {ds exponent rest : Bytes} (hne : ds ≠ []) (hd : Digits ds)
    (he : ExponentText exponent) (hr : Apart rest) :
    on skipFraction (46 :: ds ++ exponent ++ rest) = (.ok (), rest) := by
  obtain ⟨d, more, hfront⟩ := List.exists_cons_of_ne_nil hne
  rw [skipFraction, List.cons_append, List.cons_append, List.append_assoc]
  apply (on_bind_ok (on_advance _)).trans
  rw [List.tail_cons, on_bind_ok (on_digits hd (noDigit_exponent he hr)), hfront]
  simp only
  cases he with
  | some letter sign es hletter hs hes hdigits =>
    have hskip := on_skipExponent letter hs hes hdigits hr
    rcases hletter with rfl | rfl
    · exact hskip
    · exact hskip
  | none =>
    cases rest with
    | nil => rfl
    | cons b rest =>
      obtain ⟨-, -, he, hE⟩ := hr b rfl
      have hpeek : on peek ([] ++ b :: rest) = (.ok (some b), b :: rest) := rfl
      rw [on_bind_ok hpeek]
      split
      · rename_i h
        exact absurd (Option.some.inj h) he
      · rename_i h
        exact absurd (Option.some.inj h) hE
      · rfl

theorem on_skipInteger {b : UInt8} {ds more : Bytes} (hi : IntegerText (b :: ds))
    (hm : NoDigit more) : on (skipInteger b) (ds ++ more) = (.ok (), more) := by
  cases hi with
  | zero =>
    cases more with
    | nil => rfl
    | cons c more =>
      change on (if isDigit c then failNext .badNumber else pure ()) _ = _
      rw [hm c rfl]
      rfl
  | digits _ _ hb hzero hd =>
    rw [skipInteger, if_neg hzero]
    exact on_skipDigits hd hm

theorem on_skipNumber {integer fractional exponent rest : Bytes} (hi : IntegerText integer)
    (hf : FractionText fractional) (he : ExponentText exponent) (hr : Apart rest) :
    on skipNumber (integer ++ (fractional ++ exponent) ++ rest) = (.ok (), rest) := by
  obtain ⟨b, ds, rfl, hb⟩ := integerText_front hi
  have hm : NoDigit (fractional ++ exponent ++ rest) := by
    cases hf with
    | some fs _ _ =>
      intro c hc
      cases hc
      rfl
    | none => exact noDigit_exponent he hr
  have hpeek (text : Bytes) : on peek (b :: text) = (.ok (some b), b :: text) := rfl
  rw [List.append_assoc, List.cons_append, skipNumber, on_bind_ok (hpeek _)]
  apply (on_bind_ok (on_advance _)).trans
  rw [List.tail_cons, hb]
  change on (skipInteger b >>= fun _ => peek >>= _) _ = _
  rw [on_bind_ok (on_skipInteger hi hm)]
  cases hf with
  | some fs hne hd => exact on_skipFraction hne hd he hr
  | none =>
    cases he with
    | some letter sign es hletter hs hes hdigits =>
      have hskip := on_skipExponent letter hs hes hdigits hr
      rcases hletter with rfl | rfl
      · exact hskip
      · exact hskip
    | none =>
      cases rest with
      | nil => rfl
      | cons c rest =>
        obtain ⟨-, hpoint, he, hE⟩ := hr c rfl
        have hpeek : on peek ([] ++ [] ++ c :: rest) = (.ok (some c), c :: rest) := rfl
        rw [on_bind_ok hpeek]
        split
        · rename_i h
          exact absurd (Option.some.inj h) hpoint
        · rename_i h
          exact absurd (Option.some.inj h) he
        · rename_i h
          exact absurd (Option.some.inj h) hE
        · rfl

def Passes (text : Bytes) : Prop :=
  ∃ used, used < text.length ∧ ∀ opened rounds before rest, Blanks before → Apart rest →
    on (skipStart opened >>= skipItems (used + rounds)) (before ++ (text ++ rest)) =
      on (afterItem opened >>= skipItems rounds) rest

def PassesItem (bracket : Bracket) (text : Bytes) : Prop :=
  ∃ used, used < text.length ∧ ∀ outer rounds before rest, Blanks before → Apart rest →
    on (skipItems (used + 1 + rounds) (bracket :: outer)) (before ++ (text ++ rest)) =
      on (afterItem (bracket :: outer) >>= skipItems rounds) rest

theorem on_bind_congr {α β : Type} {r s : Reader α} {text other : Bytes}
    (h : on r text = on s other) (f : α → Reader β) : on (r >>= f) text = on (s >>= f) other := by
  rw [on_bind, on_bind, h]

/-- A scalar takes no round. -/
theorem passes_scalar {text : Bytes} (hne : text ≠ [])
    (h : ∀ opened before rest, Blanks before → Apart rest →
      on (skipStart opened) (before ++ (text ++ rest)) = on (afterItem opened) rest) :
    Passes text := by
  refine ⟨0, List.length_pos_iff.mpr hne, fun opened rounds before rest hb hr => ?_⟩
  rw [Nat.zero_add]
  exact on_bind_congr (h opened before rest hb hr) _

theorem passes_element {text : Bytes} (h : Passes text) : PassesItem .list text := by
  obtain ⟨used, hused, h⟩ := h
  refine ⟨used, hused, fun outer rounds before rest hb hr => ?_⟩
  have hrounds : used + 1 + rounds = used + rounds + 1 := by omega
  rw [hrounds, ← h (.list :: outer) rounds before rest hb hr]
  rfl

theorem passes_member {m : Member} (hs : m.Spaced) (hk : StringText m.name m.key)
    (h : Passes m.text) : PassesItem .object m.line.text := by
  obtain ⟨used, hused, h⟩ := h
  obtain ⟨-, hcolon, hvalue⟩ := hs
  refine ⟨used, ?_, fun outer rounds before rest hb hr => ?_⟩
  · simp only [Member.line, List.length_cons, List.length_append]
    omega
  · have hrounds : used + 1 + rounds = used + rounds + 1 := by omega
    have hkey : on skipKey (before ++ (m.line.text ++ rest)) =
        (.ok (), m.afterColon ++ (m.text ++ rest)) := by
      simp only [Member.line, List.cons_append, List.append_assoc]
      rw [skipKey, on_bind_ok (on_peekToken hb rfl _)]
      apply (on_bind_ok (on_advance _)).trans
      rw [List.tail_cons, on_bind_ok (on_skipString hk _)]
      exact on_colon hcolon _
    rw [hrounds, ← h (.object :: outer) rounds m.afterColon rest hvalue hr]
    change on (skipKey >>= fun _ => skipStart _ >>= _) _ = _
    rw [on_bind_ok hkey]

theorem closing_cases (bracket : Bracket) : bracket.closing = 93 ∨ bracket.closing = 125 := by
  cases bracket with
  | list => exact .inl rfl
  | object => exact .inr rfl

theorem isBlank_closing (bracket : Bracket) : isBlank bracket.closing = false := by
  cases bracket <;> rfl

section Brackets

variable {bracket : Bracket} {outer : List Bracket} {before : Bytes} (hb : Blanks before)
  (rest : Bytes)

include hb

/-- A closing bracket is followed by what follows the value that it closes. -/
theorem on_afterItem_closing :
    on (afterItem (bracket :: outer)) (before ++ bracket.closing :: rest) =
      on (afterItem outer) rest := by
  have hcomma : bracket.closing ≠ 44 := by cases bracket <;> decide
  rw [afterItem, on_bind_ok (on_peekToken hb (isBlank_closing bracket) rest)]
  simp only [if_neg hcomma, if_true]
  exact on_bind_ok (on_advance _)

theorem on_afterItem_comma :
    on (afterItem (bracket :: outer)) (before ++ 44 :: rest) = (.ok (bracket :: outer), rest) := by
  rw [afterItem, on_bind_ok (on_peekToken hb rfl rest)]
  exact on_bind_ok (on_advance _)

theorem on_afterOpening_closing :
    on (afterOpening bracket outer) (before ++ bracket.closing :: rest) =
      on (afterItem outer) rest := by
  rw [afterOpening, on_bind_ok (on_peekToken hb (isBlank_closing bracket) rest)]
  simp only [if_true]
  exact on_bind_ok (on_advance _)

theorem on_afterOpening_item {b : UInt8} (h : isBlank b = false) (hne : b ≠ bracket.closing) :
    on (afterOpening bracket outer) (before ++ b :: rest) =
      (.ok (bracket :: outer), b :: rest) := by
  rw [afterOpening, on_bind_ok (on_peekToken hb h rest)]
  simp only [if_neg hne]
  rfl

end Brackets

section Items

variable {bracket : Bracket} {last : Bytes} (hl : Blanks last) {lines : List Line}
  (hs : ∀ l ∈ lines, l.Spaced) (hp : ∀ l ∈ lines, PassesItem bracket l.text)

include hl hs hp

/-- Behind an item the others are passed over, and the closing bracket. -/
theorem passes_more : ∃ used, used < (Line.more bracket.closing last lines).length ∧
    ∀ outer rounds rest, on (afterItem (bracket :: outer) >>= skipItems (used + rounds))
        (Line.more bracket.closing last lines ++ rest) =
      on (afterItem outer >>= skipItems rounds) rest := by
  induction lines with
  | nil =>
    refine ⟨0, by simp [Line.more], fun outer rounds rest => ?_⟩
    rw [Nat.zero_add, Line.more, List.append_assoc]
    exact on_bind_congr (on_afterItem_closing hl rest) _
  | cons l lines ih =>
    obtain ⟨more, hmore, ih⟩ := ih (fun k hk => hs k (List.mem_cons_of_mem l hk))
      fun k hk => hp k (List.mem_cons_of_mem l hk)
    obtain ⟨used, hused, hitem⟩ := hp l List.mem_cons_self
    obtain ⟨hcomma, hbefore⟩ := hs l List.mem_cons_self
    refine ⟨used + 1 + more, ?_, fun outer rounds rest => ?_⟩
    · simp only [Line.more, List.length_append, List.length_cons]
      omega
    · have happart : Apart (Line.more bracket.closing last lines ++ rest) :=
        apart_more (closing_cases bracket) hl (fun k hk => hs k (List.mem_cons_of_mem l hk)) rest
      simp only [Line.more, List.append_assoc, List.cons_append]
      rw [on_bind_ok (on_afterItem_comma hcomma _), Nat.add_assoc,
        hitem outer (more + rounds) l.before _ hbefore happart]
      exact ih outer rounds rest

/-- Behind an opening bracket everything is passed over up to the closing one. -/
theorem passes_enclosed
    (hf : ∀ l ∈ lines, ∃ b bs, l.text = b :: bs ∧ isBlank b = false ∧ b ≠ bracket.closing) :
    ∃ used, used < (Line.enclosed bracket.closing last lines).length ∧
      ∀ opened rounds rest, on (afterOpening bracket opened >>= skipItems (used + rounds))
          (Line.enclosed bracket.closing last lines ++ rest) =
        on (afterItem opened >>= skipItems rounds) rest := by
  cases lines with
  | nil =>
    refine ⟨0, by simp [Line.enclosed], fun opened rounds rest => ?_⟩
    rw [Nat.zero_add, Line.enclosed, List.append_assoc]
    exact on_bind_congr (on_afterOpening_closing hl rest) _
  | cons l lines =>
    have hspaced : ∀ k ∈ lines, k.Spaced := fun k hk => hs k (List.mem_cons_of_mem l hk)
    obtain ⟨more, hmore, hrest⟩ :=
      passes_more hl hspaced fun k hk => hp k (List.mem_cons_of_mem l hk)
    obtain ⟨used, hused, hitem⟩ := hp l List.mem_cons_self
    obtain ⟨b, bs, hfront, hblank, hne⟩ := hf l List.mem_cons_self
    refine ⟨used + 1 + more, ?_, fun opened rounds rest => ?_⟩
    · simp only [Line.enclosed, List.length_append]
      omega
    · have happart : Apart (Line.more bracket.closing last lines ++ rest) :=
        apart_more (closing_cases bracket) hl hspaced rest
      have hopen : on (afterOpening bracket opened) (l.before ++
          (l.text ++ (Line.more bracket.closing last lines ++ rest))) =
          (.ok (bracket :: opened),
            l.text ++ (Line.more bracket.closing last lines ++ rest)) := by
        rw [hfront]
        exact on_afterOpening_item (hs l List.mem_cons_self).2 _ hblank hne
      have hskip := hitem opened (more + rounds) [] _ blanks_nil happart
      rw [List.nil_append, ← Nat.add_assoc] at hskip
      simp only [Line.enclosed, List.append_assoc]
      rw [on_bind_ok hopen, hskip]
      exact hrest opened rounds rest

/-- Items between brackets are passed over where the reader knows the opening one. -/
theorem passes_bracketed
    (hf : ∀ l ∈ lines, ∃ b bs, l.text = b :: bs ∧ isBlank b = false ∧ b ≠ bracket.closing)
    {opening : UInt8} (hstart : ∀ opened before bs, Blanks before →
      on (skipStart opened) (before ++ opening :: bs) = on (afterOpening bracket opened) bs) :
    Passes (opening :: Line.enclosed bracket.closing last lines) := by
  obtain ⟨used, hused, h⟩ := passes_enclosed hl hs hp hf
  refine ⟨used, Nat.lt_succ_of_lt hused, fun opened rounds before rest hb _ => ?_⟩
  rw [← h opened rounds rest, List.cons_append]
  exact on_bind_congr (hstart opened before _ hb) _

end Items

theorem on_skipStart_digit {before : Bytes} (hb : Blanks before) {b : UInt8}
    (h : isDigit b = true) (opened : List Bracket) (bs : Bytes) :
    on (skipStart opened) (before ++ b :: bs) =
      on (skipNumber >>= fun _ => afterItem opened) (b :: bs) := by
  rw [skipStart, on_bind_ok (on_peekToken hb (opens_digit h).1 bs)]
  split <;> rename_i hn <;> cases hn
  -- No other front that a value is told by is a digit.
  iterate 7 exact absurd h (by decide)
  simp only [h, if_true]

theorem passes_number {text : Bytes} (h : NumberText text) : Passes text := by
  obtain ⟨sign, integer, fractional, exponent, hs, hi, hf, he⟩ := h
  obtain ⟨b, ds, hinteger, hb⟩ := integerText_front hi
  refine passes_scalar (by simp [hinteger]) fun opened before rest hblanks hr => ?_
  have hskip := on_skipNumber hi hf he hr
  rcases hs with rfl | rfl
  · simp only [List.nil_append, hinteger, List.cons_append] at hskip ⊢
    rw [on_skipStart_digit hblanks hb]
    exact on_bind_ok hskip
  · rw [List.append_assoc, List.cons_append, skipStart, on_bind_ok (on_peekToken hblanks rfl _)]
    apply (on_bind_ok (on_advance _)).trans
    exact on_bind_ok hskip

theorem passes_of_spells {value : Json} {text : Bytes} (h : Spells value text) : Passes text := by
  -- The rounds of a value are those of its items, with one more for each of them.
  induction h with
  | null =>
    refine passes_scalar (by simp) fun opened before rest hb _ => ?_
    exact on_bind_ok (on_peekToken hb rfl _)
  | true =>
    refine passes_scalar (by simp) fun opened before rest hb _ => ?_
    exact on_bind_ok (on_peekToken hb rfl _)
  | false =>
    refine passes_scalar (by simp) fun opened before rest hb _ => ?_
    exact on_bind_ok (on_peekToken hb rfl _)
  | number literal h => exact passes_number h
  | string spelt body hbody =>
    refine passes_scalar (by simp) fun opened before rest hb _ => ?_
    rw [List.cons_append, List.append_assoc, skipStart, on_bind_ok (on_peekToken hb rfl _)]
    apply (on_bind_ok (on_advance _)).trans
    exact on_bind_ok (on_skipString hbody rest)
  | array items last hl hs ht ih =>
    have hpass : ∀ l ∈ items.map (·.line), PassesItem .list l.text :=
      List.forall_mem_map.mpr fun i hi => passes_element (ih i hi)
    have hfront : ∀ l ∈ items.map (·.line),
        ∃ b bs, l.text = b :: bs ∧ isBlank b = false ∧ b ≠ Bracket.list.closing := by
      refine List.forall_mem_map.mpr fun i hi => ?_
      obtain ⟨b, bs, hb, hblank, hclosing, -⟩ := spells_front (ht i hi)
      exact ⟨b, bs, hb, hblank, hclosing⟩
    have hspaced : ∀ l ∈ items.map (·.line), l.Spaced := List.forall_mem_map.mpr hs
    refine passes_bracketed hl hspaced hpass hfront fun opened before bs hb => ?_
    rw [skipStart, on_bind_ok (on_peekToken hb rfl _)]
    exact on_bind_ok (on_advance _)
  | object members last hl hs hk ht ih =>
    have hpass : ∀ l ∈ members.map Member.line, PassesItem .object l.text :=
      List.forall_mem_map.mpr fun m hm => passes_member (hs m hm) (hk m hm) (ih m hm)
    have hfront : ∀ l ∈ members.map Member.line,
        ∃ b bs, l.text = b :: bs ∧ isBlank b = false ∧ b ≠ Bracket.object.closing :=
      List.forall_mem_map.mpr fun m _ => ⟨_, _, rfl, by decide, by decide⟩
    have hspaced : ∀ l ∈ members.map Member.line, l.Spaced :=
      List.forall_mem_map.mpr fun m hm => (hs m hm).1
    refine passes_bracketed hl hspaced hpass hfront fun opened before bs hb => ?_
    rw [skipStart, on_bind_ok (on_peekToken hb rfl _)]
    exact on_bind_ok (on_advance _)

/-- A value is passed over, and nothing behind it, in fewer rounds than it has bytes. -/
theorem on_skipValue {value : Json} {before text rest : Bytes} (hb : Blanks before)
    (ht : Spells value text) (hr : Apart rest) {rounds : Nat} (hn : text.length ≤ rounds) :
    on (skipValue rounds) (before ++ (text ++ rest)) = (.ok (), rest) := by
  obtain ⟨used, hused, h⟩ := passes_of_spells ht
  obtain ⟨more, rfl⟩ := Nat.exists_eq_add_of_le (hused.le.trans hn)
  rw [skipValue, h [] more before rest hb hr]
  cases more <;> rfl

end BlobRetrieval.Json
