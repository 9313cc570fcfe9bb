import BlobRetrieval.Proofs.Toml.Lines
import BlobRetrieval.Proofs.Toml.Values

/-!
# Revisions of a document

Lines are added to a document, among its assignments and behind its tables, and its assignments
are put in another order. Nothing changes for the keys that the new lines are not about.
-/

set_option autoImplicit false

namespace BlobRetrieval.Toml

theorem lineStatement?_isWritten {l : List Char} (hl : IsLine l) :
    ∀ s ∈ lineStatement? l, s.IsWritten :=
  line_isWritten _ _ _ _ hl.readLine_eq

theorem IsPairs.isPair {ls : List (List Char)} (h : IsPairs ls) :
    ∀ s ∈ ls.filterMap lineStatement?, s.IsPair := by
  intro s hs
  obtain ⟨l, hl, hstatement⟩ := List.mem_filterMap.mp hs
  obtain ⟨hline, hheader⟩ := h l hl
  have hwritten := lineStatement?_isWritten hline s hstatement
  rw [opensTable, hstatement] at hheader
  cases s with
  | assign path key value => exact hwritten.isValue
  | _ => cases hheader

theorem IsPairs.lines {ls : List (List Char)} (h : IsPairs ls) : ∀ l ∈ ls, IsLine l :=
  fun l hl => (h l hl).1

theorem IsTables.startOver {ls : List (List Char)} (h : IsTables ls) :
    StartOver (ls.filterMap lineStatement?) := by
  cases ls with
  | nil => exact nofun
  | cons l ls =>
    have hopened := h.opened l rfl
    rw [opensTable] at hopened
    cases hs : lineStatement? l with
    | none =>
      rw [hs] at hopened
      cases hopened
    | some s =>
      rw [hs] at hopened
      intro t ht path key value heq
      rw [List.filterMap_cons_some hs, List.head?_cons] at ht
      obtain rfl := Option.some.inj ht
      subst heq
      cases hopened

structure Revision where
  mark : Bool
  pairs : List (List Char)
  tables : List (List Char)
  added : List (List Char)
  more : List (List Char)
  mixed : List (List Char)
  isPairs : IsPairs pairs
  isTables : IsTables tables
  isPairs_added : IsPairs added
  isTables_more : IsTables more
  perm : mixed.Perm (pairs ++ added)

namespace Revision

variable (r : Revision)

def before : List Char :=
  document r.mark (r.pairs ++ r.tables)

def additions : List Char :=
  document false (r.added ++ r.more)

def after : List Char :=
  document r.mark (r.mixed ++ (r.tables ++ r.more))

theorem isPair_all :
    ∀ s ∈ r.pairs.filterMap lineStatement? ++ r.added.filterMap lineStatement?, s.IsPair := by
  intro s hs
  rcases List.mem_append.mp hs with hs | hs
  · exact r.isPairs.isPair s hs
  · exact r.isPairs_added.isPair s hs

theorem perm_statements : (r.mixed.filterMap lineStatement?).Perm
    (r.pairs.filterMap lineStatement? ++ r.added.filterMap lineStatement?) := by
  rw [← List.filterMap_append]
  exact r.perm.filterMap _

theorem parse_before : parse r.before =
    assemble (r.pairs.filterMap lineStatement? ++ r.tables.filterMap lineStatement?) := by
  rw [before, parse_document (List.forall_mem_append.mpr ⟨r.isPairs.lines, r.isTables.lines⟩),
    List.filterMap_append]

theorem parse_additions : parse r.additions =
    assemble (r.added.filterMap lineStatement? ++ r.more.filterMap lineStatement?) := by
  rw [additions, parse_document
    (List.forall_mem_append.mpr ⟨r.isPairs_added.lines, r.isTables_more.lines⟩),
    List.filterMap_append]

theorem parse_after : parse r.after = assemble (r.mixed.filterMap lineStatement? ++
    (r.tables.filterMap lineStatement? ++ r.more.filterMap lineStatement?)) := by
  have hmixed : ∀ l ∈ r.mixed, IsLine l := fun l hl => by
    rcases List.mem_append.mp (r.perm.mem_iff.mp hl) with hl | hl
    · exact r.isPairs.lines l hl
    · exact r.isPairs_added.lines l hl
  rw [after, parse_document (List.forall_mem_append.mpr ⟨hmixed,
    List.forall_mem_append.mpr ⟨r.isTables.lines, r.isTables_more.lines⟩⟩),
    List.filterMap_append, List.filterMap_append]

variable {r} {entries others all : Entries}

/-- A document stays in order if what is added is in order by itself and has only new keys. -/
theorem exists_after (hbefore : parse r.before = some entries)
    (hadditions : parse r.additions = some others)
    (hnew : ∀ key, entries.find? key ≠ none → others.find? key = none) :
    ∃ all, parse r.after = some all := by
  rw [parse_before] at hbefore
  rw [parse_additions] at hadditions
  obtain ⟨d, hd, rfl⟩ := Option.map_eq_some_iff.mp hbefore
  obtain ⟨f, hf, rfl⟩ := Option.map_eq_some_iff.mp hadditions
  obtain ⟨g, hg⟩ := foldlM_merged hd hf r.isPair_all r.isTables_more.startOver hnew r.perm_statements
  exact ⟨g.entries, by rw [parse_after, assemble, hg, Option.map_some]⟩

/-- The keys that the additions do not have keep their values. -/
theorem alike_after {keys : List Key} (hbefore : parse r.before = some entries)
    (hadditions : parse r.additions = some others) (hafter : parse r.after = some all)
    (hkeys : ∀ key ∈ keys, others.find? key = none) :
    ∀ key ∈ keys, AlikeNodes (all.find? key) (entries.find? key) := by
  rw [parse_before] at hbefore
  rw [parse_additions] at hadditions
  rw [parse_after] at hafter
  obtain ⟨d, hd, rfl⟩ := Option.map_eq_some_iff.mp hbefore
  obtain ⟨f, hf, rfl⟩ := Option.map_eq_some_iff.mp hadditions
  obtain ⟨g, hg, rfl⟩ := Option.map_eq_some_iff.mp hafter
  obtain ⟨e, hadded, hmore⟩ := foldlM_append_eq_some.mp hf
  have hother : ∀ key, f.entries.find? key ≠ none → key ∉ keys := fun key hfound hkey =>
    hfound (hkeys key hkey)
  refine agree_of_edit hd hg r.isPair_all r.isTables_more.startOver r.perm_statements ?_ ?_
  · intro key hkey
    exact hother key (find?_foldlM hmore key (find?_topKeys hadded hkey))
  · intro key hkey
    rw [topKeys_startOver r.isTables_more.startOver [] e.current] at hkey
    exact hother key (find?_topKeys hmore hkey)

end Revision

end BlobRetrieval.Toml
