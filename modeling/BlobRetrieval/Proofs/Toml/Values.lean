import BlobRetrieval.Toml.Document
import BlobRetrieval.Proofs.Text.Scan
import BlobRetrieval.Proofs.Toml.Merging

/-!
# Values as they are written

What can stand behind the equals sign of an assignment: no table that a header or a dotted key
makes, and no integer of more than 64 bits.
-/

set_option autoImplicit false

namespace BlobRetrieval.Toml

open Scan

structure Node.IsWritten (node : Node) : Prop where
  isValue : node.IsValue
  inRange : ∀ n, node = .integer n → inRange n = true

theorem Node.isWritten_text (t : List Char) : (Node.text t).IsWritten :=
  ⟨trivial, fun _ h => nomatch h⟩

theorem integer_inRange : Yields integer fun n => inRange n = true := by
  intro text n rest h
  obtain ⟨m, mid, -, h⟩ := bind_eq_some.mp h
  obtain ⟨_, mid', hguard, h⟩ := bind_eq_some.mp h
  cases h
  exact (guard_eq_some.mp hguard).1

theorem scalar_isWritten : Yields scalar Node.IsWritten := by
  refine .orElse (.after fun t => .pure (Node.isWritten_text t)) ?_
  refine .orElse (.after fun _ => .pure ⟨trivial, fun _ h => nomatch h⟩) ?_
  refine .orElse (.after fun _ => .pure ⟨trivial, fun _ h => nomatch h⟩) ?_
  refine .orElse (.after fun _ => .pure ⟨trivial, fun _ h => nomatch h⟩) ?_
  refine .orElse (.after fun _ => .pure ⟨trivial, fun _ h => nomatch h⟩) ?_
  refine integer_inRange.bind fun n hn => .pure ⟨trivial, ?_⟩
  rintro m ⟨⟩
  exact hn

theorem array_isWritten (rounds : Nat) (item : Scan Node) :
    Yields (array rounds item) Node.IsWritten :=
  .after fun _ => .after fun _ => .pure ⟨trivial, fun _ h => nomatch h⟩

theorem inlineTable_isWritten (rounds : Nat) (item : Scan Node) :
    Yields (inlineTable rounds item) Node.IsWritten := by
  have htable : ∀ entries, Node.IsWritten (.table .inline entries) := fun _ =>
    ⟨rfl, fun _ h => nomatch h⟩
  refine .after fun _ => .after fun _ => .after fun closed => ?_
  cases closed with
  | true => exact .pure (htable [])
  | false => exact .after fun entries => .pure (htable entries)

theorem value_isWritten (rounds depth : Nat) : Yields (value rounds depth) Node.IsWritten := by
  cases depth with
  | zero => exact scalar_isWritten
  | succ depth =>
    exact scalar_isWritten.orElse
      ((array_isWritten rounds _).orElse (inlineTable_isWritten rounds _))

def Statement.IsWritten : Statement → Prop
  | .assign _ _ value => value.IsWritten
  | _ => True

theorem statement_isWritten (rounds : Nat) : Yields (statement rounds) Statement.IsWritten := by
  refine .orElse (.after fun _ => .after fun _ => .after fun _ => .pure trivial) ?_
  refine .orElse (.after fun _ => .after fun _ => .after fun _ => .pure trivial) ?_
  have hassign : Yields (assignment (value rounds (depthLimit - 1))) fun r => r.2.IsWritten :=
    .after fun _ => .after fun _ => .after fun _ =>
      (value_isWritten rounds _).bind fun _ h => .pure h
  exact hassign.bind fun _ h => .pure h

theorem line_isWritten (rounds : Nat) :
    Yields (line rounds) fun read => ∀ s ∈ read, s.IsWritten := by
  refine .orElse (.after fun _ => .pure (fun _ h => nomatch h)) ?_
  refine .after fun _ => (statement_isWritten rounds).bind fun s hs => .after fun _ => .pure ?_
  rintro _ ⟨⟩
  exact hs

theorem lines_isWritten (rounds n : Nat) {done : List Statement}
    (hdone : ∀ s ∈ done, s.IsWritten) :
    Yields (lines rounds n done) fun ss => ∀ s ∈ ss, s.IsWritten := by
  have hread : Yields (pure done.reverse) fun ss => ∀ s ∈ ss, Statement.IsWritten s :=
    .pure fun s hs => hdone s (List.mem_reverse.mp hs)
  induction n generalizing done with
  | zero => exact .after fun _ => hread
  | succ n ih =>
    refine .after fun text => ?_
    cases text.isEmpty with
    | true => exact hread
    | false =>
      refine (line_isWritten rounds).bind fun read hline => ?_
      cases read with
      | none => exact ih hdone hread
      | some s =>
        have hs : ∀ t ∈ s :: done, t.IsWritten := by
          intro t ht
          rcases List.mem_cons.mp ht with rfl | ht
          · exact hline t rfl
          · exact hdone t ht
        exact ih hs (.pure fun t ht => hs t (List.mem_reverse.mp ht))

theorem statements_isWritten {text : List Char} {ss : List Statement}
    (h : statements text = some ss) : ∀ s ∈ ss, s.IsWritten := by
  obtain ⟨⟨_, rest⟩, hlines, rfl⟩ := Option.map_eq_some_iff.mp h
  exact lines_isWritten text.length text.length (fun _ hs => absurd hs List.not_mem_nil) _ _ rest
    hlines

/-- Where a value of a top-level key comes from. -/
theorem find?_origin {ss : List Statement} {d f : Document}
    (h : ss.foldlM Document.add d = some f) {key : Key} {node : Node}
    (hfind : f.entries.find? key = some node) :
    d.entries.find? key = some node ∨ node.IsTable ∨ ∃ path k, .assign path k node ∈ ss := by
  induction ss generalizing d with
  | nil =>
    cases h
    exact .inl hfind
  | cons s ss ih =>
    rw [List.foldlM_cons] at h
    obtain ⟨next, hadd, hrest⟩ := Option.bind_eq_some_iff.mp h
    rw [Document.add_eq] at hadd
    obtain ⟨after, hchange, rfl⟩ := Option.map_eq_some_iff.mp hadd
    obtain ⟨new, hnew, hafter⟩ := Statement.change_eq_some hchange
    rcases ih hrest with hnext | htable | ⟨path, k, hmem⟩
    · rw [hafter] at hnext
      split at hnext
      · obtain rfl := Option.some.inj hnext
        rcases hnew with htable | ⟨path, k, rfl⟩
        · exact .inr (.inl htable)
        · exact .inr (.inr ⟨path, k, List.mem_cons_self⟩)
      · exact .inl hnext
    · exact .inr (.inl htable)
    · exact .inr (.inr ⟨path, k, List.mem_cons_of_mem s hmem⟩)

/-- A document reads as the table that its statements make. -/
theorem parse_eq_some {text : List Char} {entries : Entries} :
    parse text = some entries ↔ ∃ ss d, statements text = some ss ∧
      ss.foldlM Document.add {} = some d ∧ d.entries = entries := by
  refine Option.bind_eq_some_iff.trans (exists_congr fun ss => ?_)
  rw [assemble, Option.map_eq_some_iff]
  exact ⟨fun ⟨hss, d, hd, he⟩ => ⟨d, hss, hd, he⟩, fun ⟨d, hss, hd, he⟩ => ⟨hss, d, hd, he⟩⟩

/-- An integer behind a top-level key has 64 bits. -/
theorem parse_integer {text : List Char} {entries : Entries} (h : parse text = some entries)
    {key : Key} {n : Int} (hfind : entries.find? key = some (.integer n)) : inRange n = true := by
  obtain ⟨ss, d, hss, hd, rfl⟩ := parse_eq_some.mp h
  rcases find?_origin hd hfind with hnone | htable | ⟨path, k, hmem⟩
  · cases hnone
  · cases htable
  · exact (statements_isWritten hss _ hmem).inRange n rfl

end BlobRetrieval.Toml
