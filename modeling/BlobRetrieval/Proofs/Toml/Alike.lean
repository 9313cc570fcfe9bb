import Mathlib.Data.List.Forall2
import BlobRetrieval.Proofs.Toml.Keys

/-!
# Tables up to the order of their entries

Assignments may stand in any order: two that can follow each other do so in both orders, and
the tables that they make have the same entries, in their own order at every depth. Whatever
follows treats such tables alike.
-/

set_option autoImplicit false

namespace BlobRetrieval.Toml

inductive Entries.Alike : Entries → Entries → Prop
  | refl (e : Entries) : Alike e e
  | trans {e f g : Entries} : Alike e f → Alike f g → Alike e g
  | swap {k l : Key} (m n : Node) (e : Entries) : k ≠ l →
      Alike ((k, m) :: (l, n) :: e) ((l, n) :: (k, m) :: e)
  | cons {e f : Entries} (entry : Key × Node) : Alike e f → Alike (entry :: e) (entry :: f)
  | table {e f : Entries} (k : Key) (origin : Origin) (rest : Entries) : Alike e f →
      Alike ((k, .table origin e) :: rest) ((k, .table origin f) :: rest)
  | last {e f : Entries} (k : Key) (before : List Entries) (rest : Entries) : Alike e f →
      Alike ((k, .tables before e) :: rest) ((k, .tables before f) :: rest)
  | earlier {e f : Entries} (k : Key) (later before : List Entries) (last rest : Entries) :
      Alike e f → Alike ((k, .tables (later ++ e :: before) last) :: rest)
        ((k, .tables (later ++ f :: before) last) :: rest)

inductive Node.Alike : Node → Node → Prop
  | refl (n : Node) : Alike n n
  | table {e f : Entries} (origin : Origin) : e.Alike f → Alike (.table origin e) (.table origin f)
  | tables {before others : List Entries} {e f : Entries} :
      List.Forall₂ Entries.Alike before others → e.Alike f →
      Alike (.tables before e) (.tables others f)

theorem Entries.Alike.refl_all (before : List Entries) :
    List.Forall₂ Entries.Alike before before :=
  List.forall₂_same.mpr fun e _ => .refl e

theorem Entries.Alike.trans_all {bs cs ds : List Entries} (h : List.Forall₂ Entries.Alike bs cs)
    (h' : List.Forall₂ Entries.Alike cs ds) : List.Forall₂ Entries.Alike bs ds := by
  induction h generalizing ds with
  | nil => exact h'
  | cons hbc _ ih =>
    cases h' with
    | cons hcd htail => exact .cons (.trans hbc hcd) (ih htail)

theorem Node.Alike.trans {m n o : Node} (h : m.Alike n) (h' : n.Alike o) : m.Alike o := by
  cases h with
  | refl => exact h'
  | table origin hef =>
    cases h' with
    | refl => exact .table origin hef
    | table _ hfg => exact .table origin (.trans hef hfg)
  | tables hbs hef =>
    cases h' with
    | refl => exact .tables hbs hef
    | tables hcs hfg => exact .tables (Entries.Alike.trans_all hbs hcs) (.trans hef hfg)

abbrev AlikeResults : Option Entries → Option Entries → Prop :=
  Option.Rel Entries.Alike

abbrev AlikeNodes : Option Node → Option Node → Prop :=
  Option.Rel Node.Alike

theorem AlikeNodes.refl : ∀ m : Option Node, AlikeNodes m m
  | none => .none
  | some m => .some (.refl m)

theorem AlikeNodes.trans {m n o : Option Node} (h : AlikeNodes m n) (h' : AlikeNodes n o) :
    AlikeNodes m o := by
  cases h with
  | none => exact h'
  | some hmn =>
    cases h' with
    | some hno => exact .some (hmn.trans hno)

theorem AlikeResults.map {wrap : Entries → Node} (hwrap : ∀ e f, e.Alike f → (wrap e).Alike (wrap f))
    {e f : Option Entries} (h : AlikeResults e f) : AlikeNodes (e.map wrap) (f.map wrap) := by
  cases h with
  | none => exact .none
  | some hef => exact .some (hwrap _ _ hef)

theorem AlikeResults.table {e f : Option Entries} (h : AlikeResults e f) (origin : Origin) :
    AlikeNodes (e.map (.table origin)) (f.map (.table origin)) :=
  h.map fun _ _ => .table origin

theorem AlikeResults.tables {before others : List Entries}
    (hbs : List.Forall₂ Entries.Alike before others) {e f : Option Entries}
    (h : AlikeResults e f) : AlikeNodes (e.map (.tables before)) (f.map (.tables others)) := by
  cases h with
  | none => exact .none
  | some hef => exact .some (.tables hbs hef)

namespace Entries.Alike

variable {e f : Entries}

theorem before (key : Key) (last rest : Entries) {bs cs : List Entries}
    (h : List.Forall₂ Entries.Alike bs cs) (later : List Entries) :
    Entries.Alike ((key, .tables (later ++ bs) last) :: rest)
      ((key, .tables (later ++ cs) last) :: rest) := by
  induction h generalizing later with
  | nil => exact .refl _
  | @cons b c bs cs hbc _ ih =>
    have htail := ih (later ++ [c])
    simp only [List.append_assoc, List.singleton_append] at htail
    exact .trans (.earlier key later bs last rest hbc) htail

theorem node {m n : Node} (h : m.Alike n) (key : Key) (rest : Entries) :
    Entries.Alike ((key, m) :: rest) ((key, n) :: rest) := by
  cases h with
  | refl => exact .refl _
  | table origin hef => exact .table key origin rest hef
  | tables hbs hef => exact .trans (.last key _ rest hef) (before key _ rest hbs [])

theorem length_eq (h : e.Alike f) : e.length = f.length := by
  induction h with
  | trans _ _ ih ih' => exact ih.trans ih'
  | cons entry _ ih => rw [List.length_cons, List.length_cons, ih]
  | _ => rfl

theorem find? (h : e.Alike f) (key : Key) : AlikeNodes (e.find? key) (f.find? key) := by
  induction h with
  | refl => exact .refl _
  | trans _ _ ih ih' => exact ih.trans ih'
  | @swap k l m n e hne =>
    simp only [find?_cons]
    by_cases hk : k = key
    · have hl : l ≠ key := fun hl => hne (hk.trans hl.symm)
      simp only [if_pos hk, if_neg hl]
      exact .refl _
    · simp only [if_neg hk]
      exact .refl _
  | cons entry _ ih =>
    obtain ⟨k, n⟩ := entry
    rw [find?_cons, find?_cons]
    split
    · exact .refl _
    · exact ih
  | table k origin rest hef _ =>
    rw [find?_cons, find?_cons]
    split
    · exact .some (.table origin hef)
    · exact .refl _
  | last k before rest hef _ =>
    rw [find?_cons, find?_cons]
    split
    · exact .some (.tables (refl_all before) hef)
    · exact .refl _
  | earlier k later before last rest hef _ =>
    rw [find?_cons, find?_cons]
    split
    · exact .some (.tables (List.rel_append (refl_all later) (.cons hef (refl_all before)))
        (.refl last))
    · exact .refl _

theorem put_node {m n : Node} (h : m.Alike n) (e : Entries) (key : Key) :
    Entries.Alike (e.put key m) (e.put key n) := by
  induction e with
  | nil => exact .refl _
  | cons entry e ih =>
    obtain ⟨k, old⟩ := entry
    rw [Entries.put, Entries.put]
    split
    · exact node h k e
    · exact .cons _ ih

theorem put (h : e.Alike f) (key : Key) (n : Node) :
    Entries.Alike (e.put key n) (f.put key n) := by
  induction h with
  | refl => exact .refl _
  | trans _ _ ih ih' => exact .trans ih ih'
  | @swap k l m o e hne =>
    simp only [Entries.put]
    by_cases hk : k = key
    · have hl : l ≠ key := fun hl => hne (hk.trans hl.symm)
      simp only [if_pos hk, if_neg hl]
      exact .swap _ _ _ hne
    · by_cases hl : l = key
      · simp only [if_neg hk, if_pos hl]
        exact .swap _ _ _ hne
      · simp only [if_neg hk, if_neg hl]
        exact .swap _ _ _ hne
  | @cons e f entry hef ih =>
    obtain ⟨k, old⟩ := entry
    rw [Entries.put, Entries.put]
    split
    · exact .cons _ hef
    · exact .cons _ ih
  | table k origin rest hef _ =>
    rw [Entries.put, Entries.put]
    split
    · exact .refl _
    · exact .table k origin _ hef
  | last k before rest hef _ =>
    rw [Entries.put, Entries.put]
    split
    · exact .refl _
    · exact .last k before _ hef
  | earlier k later before last rest hef _ =>
    rw [Entries.put, Entries.put]
    split
    · exact .refl _
    · exact .earlier k later before last _ hef

/-- Setting a key to values that are alike keeps tables alike. -/
theorem set (h : e.Alike f) (key : Key) {m n : Node} (hmn : m.Alike n) :
    Entries.Alike (e.set key m) (f.set key n) := by
  have hfind := h.find? key
  rw [Entries.set, Entries.set]
  generalize e.find? key = old at hfind
  generalize f.find? key = other at hfind
  cases hfind with
  | none => exact .trans (node hmn key e) (.cons _ h)
  | some _ => exact .trans (put_node hmn e key) (h.put key n)

theorem put_put_ne {k l : Key} (h : k ≠ l) (e : Entries) (m n : Node) :
    (e.put k m).put l n = (e.put l n).put k m := by
  induction e with
  | nil => rfl
  | cons entry e ih =>
    obtain ⟨j, old⟩ := entry
    by_cases hk : j = k
    · have hl : j ≠ l := fun hl => h (hk.symm.trans hl)
      simp [Entries.put, hk, h]
    · by_cases hl : j = l
      · simp [Entries.put, hl, Ne.symm h]
      · simp [Entries.put, hk, hl, ih]

theorem set_results (h : e.Alike f) (key : Key) {m n : Option Node} (hmn : AlikeNodes m n) :
    AlikeResults (m.map (e.set key)) (n.map (f.set key)) := by
  cases hmn with
  | none => exact .none
  | some hmn => exact .some (h.set key hmn)

/-- Different keys can be set in either order. -/
theorem set_comm {k l : Key} (h : k ≠ l) (e : Entries) (m n : Node) :
    Entries.Alike ((e.set k m).set l n) ((e.set l n).set k m) := by
  have hl : (e.set k m).find? l = e.find? l := by rw [find?_set, if_neg h]
  have hk : (e.set l n).find? k = e.find? k := by rw [find?_set, if_neg (Ne.symm h)]
  rw [Entries.set, hl, Entries.set.eq_def (e.set l n), hk, Entries.set, Entries.set]
  cases hfk : e.find? k with
  | none =>
    cases hfl : e.find? l with
    | none => exact .swap _ _ _ (Ne.symm h)
    | some _ => simp [Entries.put, h, Entries.Alike.refl]
  | some _ =>
    cases hfl : e.find? l with
    | none => simp [Entries.put, Ne.symm h, Entries.Alike.refl]
    | some _ =>
      simp only [Option.isSome_some, if_true, put_put_ne h]
      exact .refl _

end Entries.Alike

end BlobRetrieval.Toml
