import BlobRetrieval.Proofs.Config.Admission
import BlobRetrieval.Proofs.Toml.Revision

/-!
# Edits of a configuration document

What a document says does not depend on the order of its assignments, nor on keys and tables
that are not known.
-/

set_option autoImplicit false

namespace BlobRetrieval.Config

open Toml

def keys : List Key :=
  ["beacon_url", "archiver_url", "format", "timeout_secs", "log_level"]

theorem textOf_alike {m n : Node} (h : m.Alike n) : textOf m = textOf n := by
  cases h <;> rfl

theorem secondsOf_alike {m n : Node} (h : m.Alike n) : secondsOf m = secondsOf n := by
  cases h <;> rfl

theorem isEmptyNode_alike {m n : Node} (h : m.Alike n) : isEmptyNode m = isEmptyNode n := by
  cases h with
  | refl => rfl
  | @table e f origin hef =>
    have hlength := hef.length_eq
    cases e <;> cases f
    · rfl
    · cases hlength
    · cases hlength
    · rfl
  | tables _ _ => rfl

theorem formatOf_single {m n : Node} (h : m.Alike n) (origin : Origin) (key : Key) :
    formatOf (.table origin [(key, m)]) = formatOf (.table origin [(key, n)]) := by
  rw [formatOf, formatOf, isEmptyNode_alike h]

theorem formatOf_alike {m n : Node} (h : m.Alike n) : formatOf m = formatOf n := by
  cases h with
  | refl => rfl
  | @table e f origin hef =>
    have hlength := hef.length_eq
    match e, f, hlength with
    | [], [], _ => rfl
    | [(k, m)], [(l, n)], _ =>
      have hfind := hef.find? k
      simp only [Entries.find?, if_true] at hfind
      split at hfind
      · next hkl =>
        subst hkl
        cases hfind with
        | some hmn => exact formatOf_single hmn origin _
      · cases hfind
    | _ :: _ :: _, _ :: _ :: _, _ => rfl
  | tables _ _ => rfl

theorem setting_alike {α : Type} {e f : Entries} {key : Key} {read : Node → Option α}
    (hread : ∀ m n, Node.Alike m n → read m = read n)
    (h : AlikeNodes (e.find? key) (f.find? key)) : setting e key read = setting f key read := by
  unfold setting
  generalize e.find? key = m at h
  generalize f.find? key = n at h
  cases h with
  | none => rfl
  | some hmn => exact congrArg (Option.map some) (hread _ _ hmn)

/-- Documents whose known keys have values that are alike say the same. -/
theorem draft_alike {e f : Entries} (h : ∀ key ∈ keys, AlikeNodes (e.find? key) (f.find? key)) :
    draft e = draft f := by
  unfold draft
  rw [setting_alike (fun _ _ => textOf_alike) (h "beacon_url" (by simp [keys])),
    setting_alike (fun _ _ => textOf_alike) (h "archiver_url" (by simp [keys])),
    setting_alike (fun _ _ => formatOf_alike) (h "format" (by simp [keys])),
    setting_alike (fun _ _ => secondsOf_alike) (h "timeout_secs" (by simp [keys])),
    setting_alike (fun _ _ => textOf_alike) (h "log_level" (by simp [keys]))]

theorem ofText_congr {text other : String} (h : ofDocument? text = ofDocument? other) :
    ofText text = ofText other := by
  rw [ofText, ofText, h]

/-- Documents whose known keys have values that are alike are the same configuration, or neither
is one. -/
theorem ofText_alike {text other : String} {e f : Entries}
    (htext : Toml.parse text.toList = some e) (hother : Toml.parse other.toList = some f)
    (h : ∀ key ∈ keys, AlikeNodes (e.find? key) (f.find? key)) : ofText text = ofText other := by
  apply ofText_congr
  rw [ofDocument?_eq, ofDocument?_eq, htext, hother, Option.bind_some, Option.bind_some,
    draft_alike h]

theorem ofText_eq_error {text : String} {entries : Entries}
    (h : Toml.parse text.toList = some entries) (hadmits : ¬Admits entries) :
    ofText text = .error .invalid := by
  have hnone : ofDocument? text = none := by
    rw [Option.eq_none_iff_forall_ne_some]
    intro config hconfig
    obtain ⟨other, hother, hfits⟩ := ofDocument?_eq_some.mp hconfig
    rw [h] at hother
    obtain rfl := Option.some.inj hother
    exact hadmits ((exists_fits h).mp ⟨config, hfits⟩)
  rw [ofText, hnone]

/-- A text is a configuration just if it is a document in which every known key has a value of its
kind, and then every setting is that of its own key or its default. The order of the assignments
in front of the first header does not matter, nor do keys and tables that are not known: a
document to which such are added stays in order if they are and are new to it, and wherever it
does it says the same as before. -/
theorem ofText_document (text : String) :
    (∀ config, ofText text = .ok config ↔
      ∃ entries, Toml.parse text.toList = some entries ∧ Fits entries config) ∧
    ((∃ config, ofText text = .ok config) ↔
      ∃ entries, Toml.parse text.toList = some entries ∧ Admits entries) ∧
    ∀ entries, Toml.parse text.toList = some entries →
      (¬Admits entries → ofText text = .error .invalid) ∧
      (∃ mark pairs tables, IsPairs pairs ∧ IsTables tables ∧
        (text.toList = document mark (pairs ++ tables) ∨
          text.toList ++ ['\n'] = document mark (pairs ++ tables))) ∧
      ∀ r : Revision, text.toList = r.before ∨ text.toList ++ ['\n'] = r.before →
        ∀ others, Toml.parse r.additions = some others →
          (∀ key ∈ keys, others.find? key = none) →
          ((∀ key, entries.find? key ≠ none → others.find? key = none) →
            ∃ all, Toml.parse r.after = some all) ∧
          ∀ all, Toml.parse r.after = some all →
            ofText (String.ofList r.after) = ofText text := by
  have hok : ∀ config, ofText text = .ok config ↔
      ∃ entries, Toml.parse text.toList = some entries ∧ Fits entries config := fun config =>
    ofText_eq_ok.trans ofDocument?_eq_some
  refine ⟨hok, ?_, fun entries hparse => ⟨ofText_eq_error hparse, exists_pairs_tables hparse, ?_⟩⟩
  · constructor
    · rintro ⟨config, hconfig⟩
      obtain ⟨entries, hparse, hfits⟩ := (hok config).mp hconfig
      exact ⟨entries, hparse, (exists_fits hparse).mp ⟨config, hfits⟩⟩
    · rintro ⟨entries, hparse, hadmits⟩
      obtain ⟨config, hfits⟩ := (exists_fits hparse).mpr hadmits
      exact ⟨config, (hok config).mpr ⟨entries, hparse, hfits⟩⟩
  · intro r htext others hadditions hunknown
    have hbefore : Toml.parse r.before = some entries := by
      rcases htext with htext | htext
      · rwa [← htext]
      · rw [← htext]
        exact parse_append_newline hparse
    refine ⟨Revision.exists_after hbefore hadditions, fun all hafter => ?_⟩
    refine ofText_alike (e := all) ?_ hparse ?_
    · rwa [String.toList_ofList]
    · exact Revision.alike_after hbefore hadditions hafter hunknown

/-- Two settings and an unknown table, to which a key and another table are added while the
settings change places. -/
theorem ofText_document_two_settings :
    let timeout := "timeout_secs = 5\n"
    let format := "format = \"ssz\"\n"
    ofText (timeout ++ format ++ "[a]\n") = .ok { format := .ssz, timeoutSecs := 5 } ∧
      ofText (format ++ "b = 1\n" ++ timeout ++ "[a]\n[c]\n") =
        ofText (timeout ++ format ++ "[a]\n") := by
  intro timeout format
  let r : Revision := {
    mark := false
    pairs := [timeout.toList, format.toList]
    tables := ["[a]\n".toList]
    added := ["b = 1\n".toList]
    more := ["[c]\n".toList]
    mixed := [format.toList, "b = 1\n".toList, timeout.toList]
    isPairs := by decide +kernel
    isTables := ⟨by decide +kernel, by decide +kernel⟩
    isPairs_added := by decide +kernel
    isTables_more := ⟨by decide +kernel, by decide +kernel⟩
    perm := by decide +kernel }
  obtain ⟨-, hok, hrevised⟩ := ofText_document (timeout ++ format ++ "[a]\n")
  have hconfig : ofText (timeout ++ format ++ "[a]\n") =
      .ok { format := .ssz, timeoutSecs := 5 } := by decide +kernel
  obtain ⟨entries, hparse, -⟩ := hok.mp ⟨_, hconfig⟩
  obtain ⟨others, hothers⟩ : ∃ others, Toml.parse r.additions = some others :=
    Option.isSome_iff_exists.mp (by decide +kernel)
  have hunknown : (Toml.parse r.additions).all
      (fun others => keys.all fun key => (others.find? key).isNone) = true := by decide +kernel
  rw [hothers, Option.all_some] at hunknown
  obtain ⟨all, hall⟩ : ∃ all, Toml.parse r.after = some all :=
    Option.isSome_iff_exists.mp (by decide +kernel)
  refine ⟨hconfig, ?_⟩
  have hafter : String.ofList r.after = format ++ "b = 1\n" ++ timeout ++ "[a]\n[c]\n" := by
    decide +kernel
  have hbefore : (timeout ++ format ++ "[a]\n").toList = r.before := by decide +kernel
  rw [← hafter]
  refine ((hrevised entries hparse).2.2 r (.inl hbefore) others hothers ?_).2 all hall
  intro key hkey
  exact Option.isNone_iff_eq_none.mp (List.all_eq_true.mp hunknown key hkey)

def isTableOfEmptyArray : Node → Bool
  | .table _ [(_, .array [])] => true
  | _ => false

/-- A format may also be given by a table in which its name has an empty array behind it. That is
neither a text nor a table with an empty table behind its only key. -/
theorem ofText_format_empty_array :
    ∃ entries origin key, Toml.parse "format = {ssz = []}".toList = some entries ∧
      entries.find? "format" = some (.table origin [(key, .array [])]) ∧
      (∀ t, Node.table origin [(key, .array [])] ≠ .text t) ∧
      (∀ other k inner, Node.table origin [(key, .array [])] ≠
        .table other [(k, .table inner [])]) ∧
      ofText "format = {ssz = []}" = .ok { format := .ssz } := by
  obtain ⟨entries, hparse⟩ : ∃ entries, Toml.parse "format = {ssz = []}".toList = some entries :=
    Option.isSome_iff_exists.mp (by decide +kernel)
  have hvalue : ((Toml.parse "format = {ssz = []}".toList).bind (Entries.find? · "format")).map
      isTableOfEmptyArray = some true := by decide +kernel
  rw [hparse, Option.bind_some] at hvalue
  obtain ⟨node, hnode, htable⟩ := Option.map_eq_some_iff.mp hvalue
  unfold isTableOfEmptyArray at htable
  split at htable
  · exact ⟨entries, _, _, hparse, hnode, nofun, nofun, by decide +kernel⟩
  · cases htable

end BlobRetrieval.Config
