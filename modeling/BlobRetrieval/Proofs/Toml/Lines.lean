import BlobRetrieval.Proofs.Toml.Rounds

/-!
# Documents line by line

A document is a row of lines, each with one statement or with none. A line is read in the same way
wherever it stands.
-/

set_option autoImplicit false

namespace BlobRetrieval.Toml

open Scan

variable {α β : Type} {p : Scan α} {f : α → Scan β}

def EndsLine (p : Scan α) : Prop :=
  ∀ text a rest, p text = some (a, rest) →
    ∃ front, (text = front ++ '\n' :: rest ∨ text = front ∧ rest = []) ∧
      ∀ more, p (front ++ '\n' :: more) = some (a, more)

theorem EndsLine.bind (hp : Local p) (hf : ∀ a, EndsLine (f a)) : EndsLine (p >>= f) := by
  intro text b rest h
  obtain ⟨a, mid, ha, hb⟩ := bind_eq_some.mp h
  obtain ⟨start, rfl⟩ := hp.leaves text a mid ha
  obtain ⟨front, hends, hmore⟩ := hf a mid b rest hb
  have hending : ∃ x, Ending x ∧ mid = front ++ x := by
    rcases hends with rfl | ⟨rfl, -⟩
    · exact ⟨_, .newline rest, rfl⟩
    · exact ⟨[], .nothing, (List.append_nil _).symm⟩
  obtain ⟨x, hx, rfl⟩ := hending
  refine ⟨start ++ front, ?_, fun more => ?_⟩
  · rcases hends with hends | ⟨hends, hrest⟩
    · exact .inl (by rw [hends, List.append_assoc])
    · exact .inr ⟨by rw [hends], hrest⟩
  · rw [← List.append_assoc] at ha
    exact (bind_of_some (hp.same _ front a x _ hx (.newline more) ha)).trans (hmore more)

theorem EndsLine.map (hp : EndsLine p) (g : α → β) : EndsLine (p >>= fun a => pure (g a)) := by
  intro text b rest h
  obtain ⟨a, mid, ha, hb⟩ := bind_eq_some.mp h
  cases hb
  obtain ⟨front, hends, hmore⟩ := hp text a rest ha
  exact ⟨front, hends, fun more => bind_of_some (hmore more)⟩

def remark : Scan Unit :=
  spaces >>= fun _ => comment <|> pure ()

theorem remark_inLine : InLine remark :=
  spaces_inLine.bind fun _ => .orElse
    ((InLine.char (by decide)).bind fun _ => (InLine.many (by decide)).bind fun _ => .pure ())
    (.pure ())

theorem lineEnd_eq : lineEnd = remark >>= fun _ => newline <|> atEnd :=
  (bind_assoc _ _ _).symm

theorem break_eq_some {text rest : List Char} {u : Unit}
    (h : (newline <|> atEnd) text = some (u, rest)) :
    text = '\n' :: rest ∨ text = '\r' :: '\n' :: rest ∨ text = [] ∧ rest = [] := by
  rcases orElse_eq_some h with hbreak | ⟨-, hend⟩
  · rcases orElse_eq_some hbreak with hchar | ⟨-, hword⟩
    · exact .inl (char_eq_some.mp hchar)
    · obtain ⟨_, mid, hfirst, hword⟩ := bind_eq_some.mp hword
      obtain ⟨_, last, hsecond, hnil⟩ := bind_eq_some.mp hword
      cases hnil
      exact .inr (.inl (by rw [char_eq_some.mp hfirst, char_eq_some.mp hsecond]))
  · cases text with
    | nil =>
      cases hend
      exact .inr (.inr ⟨rfl, rfl⟩)
    | cons c text => cases hend

theorem lineEnd_endsLine : EndsLine lineEnd := by
  rw [lineEnd_eq]
  intro text _ rest h
  obtain ⟨_, mid, hremark, hbreak⟩ := bind_eq_some.mp h
  obtain ⟨start, rfl⟩ := remark_inLine.leaves text _ mid hremark
  have hsame := remark_inLine.isLocal.same
  rcases break_eq_some hbreak with rfl | rfl | ⟨rfl, rfl⟩
  · refine ⟨start, .inl rfl, fun more => ?_⟩
    exact bind_eq_some.mpr ⟨(), '\n' :: more,
      hsame start [] () _ _ (.newline rest) (.newline more) hremark, rfl⟩
  · refine ⟨start ++ ['\r'], .inl (by simp), fun more => ?_⟩
    have hfront : remark ((start ++ ['\r']) ++ '\n' :: rest) = some ((), ['\r'] ++ '\n' :: rest) := by
      simpa using hremark
    exact bind_eq_some.mpr ⟨(), '\r' :: '\n' :: more,
      hsame _ ['\r'] () _ _ (.newline rest) (.newline more) hfront, rfl⟩
  · refine ⟨start, .inr ⟨List.append_nil start, rfl⟩, fun more => ?_⟩
    exact bind_eq_some.mpr ⟨(), '\n' :: more,
      hsame start [] () _ _ .nothing (.newline more) hremark, rfl⟩

def statementLine (rounds : Nat) : Scan (Option Statement) :=
  spaces >>= fun _ => statement rounds >>= fun s => lineEnd >>= fun _ => pure (some s)

theorem line_eq (rounds : Nat) :
    line rounds = ((lineEnd >>= fun _ => pure none) <|> statementLine rounds) :=
  rfl

theorem statementLine_endsLine (rounds : Nat) : EndsLine (statementLine rounds) :=
  .bind spaces_inLine.isLocal fun _ => .bind (statement_isLocal rounds) fun s =>
    lineEnd_endsLine.map fun _ => some s

theorem lineEnd_eq_none {text mid : List Char} {u : Unit} (hspaces : spaces text = some (u, mid))
    {c : Char} {tail : List Char} (hmid : mid = c :: tail) (hbreak : c ≠ '\n') (hreturn : c ≠ '\r')
    (hremark : c ≠ '#') : lineEnd text = none := by
  subst hmid
  have hcomment : comment (c :: tail) = none := by
    refine bind_of_none ?_
    rw [char, if_neg hremark]
  have hskip : (comment <|> pure ()) (c :: tail) = some ((), c :: tail) := by
    rw [orElse_apply, hcomment, Option.none_or]
    rfl
  have hnewline : newline (c :: tail) = none := by
    rw [newline, orElse_apply, char, if_neg hbreak, Option.none_or]
    refine bind_of_none ?_
    rw [char, if_neg hreturn]
  refine (bind_of_some hspaces).trans ((bind_of_some hskip).trans ?_)
  rw [orElse_apply, hnewline, Option.none_or]
  rfl

/-- A line with a statement is not an empty one as well. -/
theorem lineEnd_of_statementLine {rounds : Nat} {text rest : List Char} {s : Option Statement}
    (h : statementLine rounds text = some (s, rest)) : lineEnd text = none := by
  obtain ⟨_, mid, hspaces, h⟩ := bind_eq_some.mp h
  obtain ⟨read, left, hread, -⟩ := bind_eq_some.mp h
  cases mid with
  | nil => cases hread
  | cons c tail =>
    have hne : ∀ d, statement rounds (d :: tail) = none → c ≠ d := by
      rintro d hnone rfl
      rw [hnone] at hread
      cases hread
    exact lineEnd_eq_none hspaces rfl (hne _ rfl) (hne _ rfl) (hne _ rfl)

theorem line_endsLine (rounds : Nat) : EndsLine (line rounds) := by
  rw [line_eq]
  intro text s rest h
  rcases orElse_eq_some h with h | ⟨-, h⟩
  · obtain ⟨front, hends, hmore⟩ := (lineEnd_endsLine.map fun _ => none) text s rest h
    exact ⟨front, hends, fun more => by rw [orElse_apply, hmore, Option.some_or]⟩
  · obtain ⟨front, hends, hmore⟩ := statementLine_endsLine rounds text s rest h
    refine ⟨front, hends, fun more => ?_⟩
    -- the first alternative depends on what follows; that the second one reads rules it out
    rw [orElse_apply, bind_of_none (lineEnd_of_statementLine (hmore more)), Option.none_or, hmore]

def readLine (l : List Char) : Option (Option Statement × List Char) :=
  line (l.length + 1) (l ++ ['\n'])

def IsLine (l : List Char) : Prop :=
  (readLine l).map Prod.snd = some ['\n']

instance (l : List Char) : Decidable (IsLine l) :=
  inferInstanceAs (Decidable (_ = _))

def lineStatement? (l : List Char) : Option Statement :=
  (readLine l).bind (·.1)

theorem IsLine.readLine_eq {l : List Char} (h : IsLine l) :
    readLine l = some (lineStatement? l, ['\n']) := by
  obtain ⟨⟨s, rest⟩, hs, rfl⟩ := Option.map_eq_some_iff.mp h
  rw [lineStatement?, hs]
  rfl

theorem isLine_of_readLine {l : List Char} {s : Option Statement}
    (h : readLine l = some (s, ['\n'])) : IsLine l ∧ lineStatement? l = s := by
  rw [IsLine, lineStatement?, h]
  exact ⟨rfl, rfl⟩

theorem IsLine.ne_nil {l : List Char} (h : IsLine l) : l ≠ [] := by
  rintro rfl
  cases h

/-- A line is read in the same way whatever follows it. -/
theorem IsLine.line_append {l : List Char} (h : IsLine l) (rest : List Char) {rounds : Nat}
    (hrounds : (l ++ rest).length ≤ rounds) :
    line rounds (l ++ rest) = some (lineStatement? l, rest) := by
  obtain ⟨front, hends, hmore⟩ := line_endsLine _ _ _ _ h.readLine_eq
  obtain rfl : l = front ++ ['\n'] := by
    rcases hends with hends | ⟨-, hnil⟩
    · have hsplit : l ++ ['\n'] = (front ++ ['\n']) ++ ['\n'] := by simpa using hends
      exact List.append_cancel_right hsplit
    · cases hnil
  refine line_follows rounds ((front ++ ['\n']).length + 1) _ _ rest hrounds ?_
  rw [List.append_assoc]
  exact hmore rest

theorem isLine_of_line {rounds : Nat} {front : List Char} {s : Option Statement}
    (h : ∀ more, line rounds (front ++ '\n' :: more) = some (s, more)) :
    IsLine (front ++ ['\n']) ∧ lineStatement? (front ++ ['\n']) = s := by
  apply isLine_of_readLine
  refine line_follows _ rounds _ _ _ (by simp) ?_
  rw [List.append_assoc]
  exact h ['\n']

/-- A line at the front of a text, with the break that ends it there or would end it. -/
theorem exists_line {rounds : Nat} {text rest : List Char} {s : Option Statement}
    (h : line rounds text = some (s, rest)) :
    ∃ l, IsLine l ∧ lineStatement? l = s ∧
      (text = l ++ rest ∨ text ++ ['\n'] = l ∧ rest = []) := by
  obtain ⟨front, hends, hmore⟩ := line_endsLine rounds text s rest h
  obtain ⟨hline, hs⟩ := isLine_of_line hmore
  refine ⟨_, hline, hs, ?_⟩
  rcases hends with rfl | ⟨rfl, rfl⟩
  · exact .inl (by simp)
  · exact .inr ⟨rfl, rfl⟩

theorem lines_nil (rounds n : Nat) (done : List Statement) :
    lines rounds n done [] = some (done.reverse, []) := by
  cases n <;> rfl

theorem lines_succ {rounds n : Nat} {done : List Statement} {text : List Char} (h : text ≠ []) :
    lines rounds (n + 1) done text =
      (line rounds >>= fun s => lines rounds n (s.toList ++ done)) text := by
  obtain ⟨c, tail, rfl⟩ := List.exists_cons_of_ne_nil h
  have hget : (get : Scan (List Char)) (c :: tail) = some (c :: tail, c :: tail) := rfl
  rw [lines]
  refine (bind_of_some hget).trans ?_
  rw [List.isEmpty_cons, if_neg Bool.false_ne_true]
  cases hline : line rounds (c :: tail) with
  | none => rw [bind_of_none hline, bind_of_none hline]
  | some read =>
    obtain ⟨s, rest⟩ := read
    rw [bind_of_some hline, bind_of_some hline]
    cases s <;> rfl

/-- Lines one after the other are read as their statements. -/
theorem lines_flatten {rounds n : Nat} {ls : List (List Char)} (hls : ∀ l ∈ ls, IsLine l)
    (hrounds : ls.flatten.length ≤ rounds) (hn : ls.flatten.length ≤ n) (done : List Statement) :
    lines rounds n done ls.flatten = some (done.reverse ++ ls.filterMap lineStatement?, []) := by
  induction ls generalizing n done with
  | nil =>
    rw [List.flatten_nil, lines_nil, List.filterMap_nil, List.append_nil]
  | cons l ls ih =>
    have hl := hls l List.mem_cons_self
    rw [List.flatten_cons] at hrounds hn ⊢
    have hlength : 0 < l.length := List.length_pos_iff.mpr hl.ne_nil
    rw [List.length_append] at hn
    obtain ⟨n, rfl⟩ : ∃ k, n = k + 1 := ⟨n - 1, by omega⟩
    have hne : l ++ ls.flatten ≠ [] := fun h => hl.ne_nil (List.append_eq_nil_iff.mp h).1
    rw [lines_succ hne, bind_of_some (hl.line_append ls.flatten hrounds)]
    rw [List.length_append] at hrounds
    rw [ih (fun k hk => hls k (List.mem_cons_of_mem l hk)) (by omega) (by omega)]
    cases hs : lineStatement? l <;> simp [hs]

/-- A text that is read consists of lines, but for a line break that may be missing at the end. -/
theorem exists_lines {rounds n : Nat} {done ss : List Statement} {text rest : List Char}
    (h : lines rounds n done text = some (ss, rest)) :
    ∃ ls : List (List Char), (∀ l ∈ ls, IsLine l) ∧
      ss = done.reverse ++ ls.filterMap lineStatement? ∧
      (text = ls.flatten ∨ text ++ ['\n'] = ls.flatten) := by
  induction n generalizing done text with
  | zero =>
    obtain ⟨_, left, hend, hpure⟩ := bind_eq_some.mp h
    cases hpure
    cases text with
    | nil => exact ⟨[], by simp⟩
    | cons c text => cases hend
  | succ n ih =>
    by_cases hne : text = []
    · subst hne
      rw [lines_nil] at h
      cases h
      exact ⟨[], by simp⟩
    · rw [lines_succ hne] at h
      obtain ⟨s, mid, hline, hmid⟩ := bind_eq_some.mp h
      obtain ⟨l, hl, rfl, htext⟩ := exists_line hline
      have hss : ∀ ls : List (List Char),
          ((lineStatement? l).toList ++ done).reverse ++ ls.filterMap lineStatement? =
            done.reverse ++ (l :: ls).filterMap lineStatement? := by
        intro ls
        cases hs : lineStatement? l <;> simp [hs]
      rcases htext with rfl | ⟨hbreak, rfl⟩
      · obtain ⟨ls, hls, hread, hflat⟩ := ih hmid
        refine ⟨l :: ls, List.forall_mem_cons.mpr ⟨hl, hls⟩, hread.trans (hss ls), ?_⟩
        rw [List.flatten_cons, List.append_assoc]
        exact hflat.imp (congrArg (l ++ ·)) (congrArg (l ++ ·))
      · rw [lines_nil] at hmid
        cases hmid
        refine ⟨[l], by simpa using hl, ?_, .inr (by simpa using hbreak)⟩
        simpa using hss []

def document (mark : Bool) (ls : List (List Char)) : List Char :=
  (if mark then ['\ufeff'] else []) ++ ls.flatten

theorem dropMark_of_ne {c : Char} (h : c ≠ '\ufeff') (text : List Char) :
    dropMark (c :: text) = c :: text :=
  dropMark.eq_2 _ fun _ heq => h (List.cons.inj heq).1

theorem dropMark_document {ls : List (List Char)} (hls : ∀ l ∈ ls, IsLine l) (mark : Bool) :
    dropMark (document mark ls) = ls.flatten := by
  cases mark with
  | true => rfl
  | false =>
    cases ls with
    | nil => rfl
    | cons l ls =>
      have hl := hls l List.mem_cons_self
      obtain ⟨c, tail, rfl⟩ := List.exists_cons_of_ne_nil hl.ne_nil
      refine dropMark_of_ne ?_ _
      rintro rfl
      cases hl

/-- A document made of lines reads as their statements. -/
theorem statements_document {ls : List (List Char)} (hls : ∀ l ∈ ls, IsLine l) (mark : Bool) :
    statements (document mark ls) = some (ls.filterMap lineStatement?) := by
  have hlength : ls.flatten.length ≤ (document mark ls).length := by simp [document]
  have hread := lines_flatten hls hlength hlength []
  rw [statements, dropMark_document hls]
  exact congrArg (Option.map Prod.fst) hread

/-- Every text that reads as statements is a document made of lines, but for a line break that may
be missing at the end. -/
theorem exists_document {text : List Char} {ss : List Statement}
    (h : statements text = some ss) :
    ∃ mark ls, (∀ l ∈ ls, IsLine l) ∧ ss = ls.filterMap lineStatement? ∧
      (text = document mark ls ∨ text ++ ['\n'] = document mark ls) := by
  obtain ⟨⟨_, rest⟩, hlines, rfl⟩ := Option.map_eq_some_iff.mp h
  obtain ⟨ls, hls, hss, hflat⟩ := exists_lines hlines
  have hmark : ∃ mark : Bool, text = (if mark then ['\ufeff'] else []) ++ dropMark text := by
    unfold dropMark
    split
    · exact ⟨true, rfl⟩
    · exact ⟨false, rfl⟩
  obtain ⟨mark, hmark⟩ := hmark
  refine ⟨mark, ls, hls, hss, ?_⟩
  rw [hmark, List.append_assoc, document]
  exact hflat.imp (congrArg _) (congrArg _)

def Statement.isHeader : Statement → Bool
  | .assign _ _ _ => false
  | _ => true

def opensTable (l : List Char) : Bool :=
  (lineStatement? l).any Statement.isHeader

def IsPairs (ls : List (List Char)) : Prop :=
  ∀ l ∈ ls, IsLine l ∧ opensTable l = false

instance (ls : List (List Char)) : Decidable (IsPairs ls) :=
  inferInstanceAs (Decidable (∀ l ∈ ls, _))

structure IsTables (ls : List (List Char)) : Prop where
  lines : ∀ l ∈ ls, IsLine l
  opened : ∀ l ∈ ls.head?, opensTable l = true

theorem parse_document {ls : List (List Char)} (hls : ∀ l ∈ ls, IsLine l) (mark : Bool) :
    parse (document mark ls) = assemble (ls.filterMap lineStatement?) := by
  rw [parse, statements_document hls]
  rfl

/-- Every document falls apart into its assignments in front of the first header, and the tables
behind. A line break may be missing at the end. -/
theorem exists_pairs_tables {text : List Char} {entries : Entries}
    (h : parse text = some entries) :
    ∃ mark pairs tables, IsPairs pairs ∧ IsTables tables ∧
      (text = document mark (pairs ++ tables) ∨
        text ++ ['\n'] = document mark (pairs ++ tables)) := by
  obtain ⟨ss, hss, -⟩ := Option.bind_eq_some_iff.mp h
  obtain ⟨mark, ls, hls, -, htext⟩ := exists_document hss
  let pairs := ls.takeWhile (!opensTable ·)
  let tables := ls.dropWhile (!opensTable ·)
  have hsplit : pairs ++ tables = ls := List.takeWhile_append_dropWhile
  refine ⟨mark, pairs, tables, ?_, ?_, ?_⟩
  · intro l hl
    refine ⟨hls l ((List.takeWhile_prefix _).subset hl), ?_⟩
    simpa using List.all_eq_true.mp List.all_takeWhile l hl
  · refine ⟨fun l hl => hls l ((List.dropWhile_suffix _).subset hl), fun l hl => ?_⟩
    have hhead := List.head?_dropWhile_not (!opensTable ·) ls
    rw [Option.mem_def.mp hl] at hhead
    simpa using hhead
  · rwa [hsplit]

/-- A line break at the end of a document makes no difference. -/
theorem parse_append_newline {text : List Char} {entries : Entries}
    (h : parse text = some entries) : parse (text ++ ['\n']) = some entries := by
  obtain ⟨ss, hss, hentries⟩ := Option.bind_eq_some_iff.mp h
  obtain ⟨mark, ls, hls, rfl, htext⟩ := exists_document hss
  rcases htext with rfl | htext
  · obtain ⟨hblank, hstatement⟩ : IsLine ['\n'] ∧ lineStatement? ['\n'] = none :=
      isLine_of_readLine rfl
    have hlines : ∀ l ∈ ls ++ [['\n']], IsLine l :=
      List.forall_mem_append.mpr ⟨hls, List.forall_mem_singleton.mpr hblank⟩
    have hdocument : document mark ls ++ ['\n'] = document mark (ls ++ [['\n']]) := by
      simp [document]
    rw [hdocument, parse_document hlines, List.filterMap_append]
    simpa [hstatement] using hentries
  · rw [htext, parse_document hls]
    exact hentries

end BlobRetrieval.Toml
