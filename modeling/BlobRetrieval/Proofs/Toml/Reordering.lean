import BlobRetrieval.Proofs.Toml.Alike

/-!
# Assignments in another order

Assignments that are not under a header can change places: the documents that they make are
alike, and stay so under every statement that follows. Whether the document is in order does
not depend on their order either.
-/

set_option autoImplicit false

namespace BlobRetrieval.Toml

def Respects (change : Entries → Option Entries) : Prop :=
  ∀ e f, Entries.Alike e f → AlikeResults (change e) (change f)

theorem changeAt_respects {key : Key} {act : Option Node → Option Node}
    (hact : ∀ m n, AlikeNodes m n → AlikeNodes (act m) (act n)) : Respects (changeAt key act) := by
  intro e f h
  exact h.set_results key (hact _ _ (h.find? key))

theorem assignHere_respects (value : Node) (m n : Option Node) (h : AlikeNodes m n) :
    AlikeNodes (assignHere value m) (assignHere value n) := by
  cases h with
  | none => exact .refl _
  | some _ => exact .none

theorem assignBelow_respects {path : List Key} {key : Key} {value : Node}
    (hchange : Respects (Entries.insertDotted path key value)) (m n : Option Node)
    (h : AlikeNodes m n) :
    AlikeNodes (assignBelow path key value m) (assignBelow path key value n) := by
  cases h with
  | none => exact .refl _
  | some hmn =>
    cases hmn with
    | refl => exact .refl _
    | table origin hef =>
      cases origin with
      | dotted => exact (hchange _ _ hef).table .dotted
      | implied =>
        simp only [assignBelow]
        cases path.isEmpty with
        | true => exact .none
        | false => exact (hchange _ _ hef).table .implied
      | header => exact .none
      | inline => exact .none
    | tables hbs hef =>
      simp only [assignBelow]
      cases path.isEmpty with
      | true => exact .none
      | false => exact (hchange _ _ hef).tables hbs

theorem insertDotted_respects (path : List Key) (key : Key) (value : Node) :
    Respects (Entries.insertDotted path key value) := by
  induction path with
  | nil =>
    rw [insertDotted_nil]
    exact changeAt_respects (assignHere_respects value)
  | cons step path ih =>
    rw [insertDotted_cons]
    exact changeAt_respects (assignBelow_respects ih)

theorem modifyBelow_respects {change : Entries → Option Entries} {path : List Key}
    (hchange : Respects (Entries.modifyAt change path)) (m n : Option Node)
    (h : AlikeNodes m n) :
    AlikeNodes (modifyBelow change path m) (modifyBelow change path n) := by
  cases h with
  | none => exact .refl _
  | some hmn =>
    cases hmn with
    | refl => exact .refl _
    | table origin hef =>
      cases origin with
      | inline => exact .none
      | _ => exact (hchange _ _ hef).table _
    | tables hbs hef => exact (hchange _ _ hef).tables hbs

theorem modifyAt_respects {change : Entries → Option Entries} (h : Respects change)
    (path : List Key) : Respects (Entries.modifyAt change path) := by
  induction path with
  | nil => exact h
  | cons step path ih =>
    rw [modifyAt_cons]
    exact changeAt_respects (modifyBelow_respects ih)

theorem openTable_respects (key : Key) : Respects (Entries.openTable key) := by
  rw [openTable_eq]
  apply changeAt_respects
  intro m n h
  cases h with
  | none => exact .refl _
  | some hmn =>
    cases hmn with
    | refl => exact .refl _
    | table origin hef =>
      cases origin with
      | implied => exact .some (.table .header hef)
      | _ => exact .none
    | tables _ _ => exact .none

theorem openElement_respects (key : Key) : Respects (Entries.openElement key) := by
  rw [openElement_eq]
  apply changeAt_respects
  intro m n h
  cases h with
  | none => exact .refl _
  | some hmn =>
    cases hmn with
    | refl => exact .refl _
    | table origin hef => exact .none
    | tables hbs hef => exact .some (.tables (.cons hef hbs) (.refl []))

def Node.IsValue : Node → Prop
  | .table origin _ => origin = .inline
  | .tables _ _ => False
  | _ => True

theorem assignBelow_value {value : Node} (h : value.IsValue) (path : List Key) (key : Key)
    (new : Node) : assignBelow path key new (some value) = none := by
  cases value with
  | table origin inner =>
    cases h
    rfl
  | tables before last => cases h
  | _ => rfl

theorem changeAt_changeAt (key : Key) (act other : Option Node → Option Node) (e : Entries) :
    (changeAt key act e).bind (changeAt key other) =
      ((act (e.find? key)).bind fun node => other (some node)).map (e.set key) := by
  rw [changeAt]
  cases act (e.find? key) with
  | none => rfl
  | some m =>
    rw [Option.map_some, Option.bind_some, Option.bind_some, changeAt, Entries.find?_set,
      if_pos rfl]
    cases other (some m) with
    | none => rfl
    | some n => exact congrArg some (Entries.set_set e key m n)

/-- Changes of different keys can be made in either order. -/
theorem changeAt_comm_ne {k l : Key} (h : k ≠ l) (act other : Option Node → Option Node)
    (e : Entries) : AlikeResults ((changeAt k act e).bind (changeAt l other))
      ((changeAt l other e).bind (changeAt k act)) := by
  cases hk : act (e.find? k) with
  | none =>
    cases hl : other (e.find? l) with
    | none =>
      simp only [changeAt, hk, hl, Option.map_none, Option.bind_none]
      exact .none
    | some n =>
      simp only [changeAt, hk, hl, Option.map_none, Option.map_some, Option.bind_none,
        Option.bind_some, Entries.find?_set, if_neg (Ne.symm h)]
      exact .none
  | some m =>
    cases hl : other (e.find? l) with
    | none =>
      simp only [changeAt, hk, hl, Option.map_none, Option.map_some, Option.bind_none,
        Option.bind_some, Entries.find?_set, if_neg h]
      exact .none
    | some n =>
      simp only [changeAt, hk, hl, Option.map_some, Option.bind_some, Entries.find?_set,
        if_neg h, if_neg (Ne.symm h)]
      exact .some (Entries.Alike.set_comm h e m n)

/-- Changes of one key can be made in either order if they can on its value. -/
theorem changeAt_comm {act other : Option Node → Option Node}
    (h : ∀ old, AlikeNodes ((act old).bind fun node => other (some node))
      ((other old).bind fun node => act (some node))) (k l : Key) (e : Entries) :
    AlikeResults ((changeAt k act e).bind (changeAt l other))
      ((changeAt l other e).bind (changeAt k act)) := by
  by_cases hkl : k = l
  · subst hkl
    rw [changeAt_changeAt, changeAt_changeAt]
    exact (Entries.Alike.refl e).set_results k (h (e.find? k))
  · exact changeAt_comm_ne hkl act other e

theorem assignHere_comm_below {value : Node} (h : value.IsValue) (path : List Key) (key : Key)
    (new : Node) (old : Option Node) :
    ((assignHere value old).bind fun node => assignBelow path key new (some node)) = none ∧
      ((assignBelow path key new old).bind fun node => assignHere value (some node)) = none := by
  constructor
  · cases old with
    | none => exact assignBelow_value h path key new
    | some _ => rfl
  · cases assignBelow path key new old <;> rfl

/-- How the value that an assignment goes into is put together again. -/
theorem map_bind_assignBelow {q : List Key} {l : Key} {w : Node} {wrap : Entries → Node}
    (hwrap : ∀ e, assignBelow q l w (some (wrap e)) = (Entries.insertDotted q l w e).map wrap)
    (result : Option Entries) :
    ((result.map wrap).bind fun node => assignBelow q l w (some node)) =
      (result.bind (Entries.insertDotted q l w)).map wrap := by
  cases result with
  | none => rfl
  | some e => exact hwrap e

/-- No assignment makes another one possible that a value refuses for all its entries. -/
theorem assignBelow_refused {p q : List Key} {k l : Key} {v w : Node} {wrap : Entries → Node}
    (hv : ∀ e, assignBelow p k v (some (wrap e)) = none)
    (hw : ∀ e, assignBelow q l w (some (wrap e)) =
      if q.isEmpty then none else (Entries.insertDotted q l w e).map wrap) (e : Entries) :
    ((assignBelow q l w (some (wrap e))).bind fun node => assignBelow p k v (some node)) = none := by
  rw [hw]
  split
  · rfl
  · cases Entries.insertDotted q l w e with
    | none => rfl
    | some f => exact hv f

section Below

variable {p q : List Key} {k l : Key} {v w : Node}
  (h : ∀ e, AlikeResults ((Entries.insertDotted p k v e).bind (Entries.insertDotted q l w))
    ((Entries.insertDotted q l w e).bind (Entries.insertDotted p k v)))

include h

theorem assignBelow_comm_within (wrap : Entries → Node)
    (hv : ∀ e, assignBelow p k v (some (wrap e)) = (Entries.insertDotted p k v e).map wrap)
    (hw : ∀ e, assignBelow q l w (some (wrap e)) = (Entries.insertDotted q l w e).map wrap)
    (hwrap : ∀ e f, Entries.Alike e f → (wrap e).Alike (wrap f)) (e : Entries) :
    AlikeNodes
      (((Entries.insertDotted p k v e).map wrap).bind fun node => assignBelow q l w (some node))
      (((Entries.insertDotted q l w e).map wrap).bind
        fun node => assignBelow p k v (some node)) := by
  rw [map_bind_assignBelow hw, map_bind_assignBelow hv]
  exact (h e).map hwrap

/-- A table that takes no key of its own from here takes none in either order. -/
theorem assignBelow_comm_guarded (wrap : Entries → Node)
    (hv : ∀ e, assignBelow p k v (some (wrap e)) =
      if p.isEmpty then none else (Entries.insertDotted p k v e).map wrap)
    (hw : ∀ e, assignBelow q l w (some (wrap e)) =
      if q.isEmpty then none else (Entries.insertDotted q l w e).map wrap)
    (hwrap : ∀ e f, Entries.Alike e f → (wrap e).Alike (wrap f)) (e : Entries) :
    AlikeNodes
      ((assignBelow p k v (some (wrap e))).bind fun node => assignBelow q l w (some node))
      ((assignBelow q l w (some (wrap e))).bind fun node => assignBelow p k v (some node)) := by
  cases hp : p.isEmpty with
  | true =>
    simp only [hp, if_true] at hv
    rw [assignBelow_refused hv hw, hv]
    exact .none
  | false =>
    cases hq : q.isEmpty with
    | true =>
      simp only [hq, if_true] at hw
      rw [assignBelow_refused hw hv, hw]
      exact .none
    | false =>
      simp only [hp, hq, Bool.false_eq_true, if_false] at hv hw
      rw [hv, hw]
      exact assignBelow_comm_within h wrap hv hw hwrap e

theorem assignBelow_comm (old : Option Node) :
    AlikeNodes ((assignBelow p k v old).bind fun node => assignBelow q l w (some node))
      ((assignBelow q l w old).bind fun node => assignBelow p k v (some node)) := by
  have hdotted := assignBelow_comm_within h (.table .dotted) (fun _ => rfl) (fun _ => rfl)
    (fun _ _ => .table .dotted)
  cases old with
  | none => exact hdotted []
  | some old =>
    cases old with
    | table origin inner =>
      cases origin with
      | dotted => exact hdotted inner
      | implied =>
        exact assignBelow_comm_guarded h (.table .implied) (fun _ => rfl) (fun _ => rfl)
          (fun _ _ => .table .implied) inner
      | header => exact .none
      | inline => exact .none
    | tables before last =>
      exact assignBelow_comm_guarded h (.tables before) (fun _ => rfl) (fun _ => rfl)
        (fun _ _ => .tables (Entries.Alike.refl_all before)) last
    | _ => exact .none

end Below

/-- Two assignments can be made in either order. -/
theorem insertDotted_comm {v w : Node} (hv : v.IsValue) (hw : w.IsValue) (k l : Key)
    (p q : List Key) (e : Entries) :
    AlikeResults ((Entries.insertDotted p k v e).bind (Entries.insertDotted q l w))
      ((Entries.insertDotted q l w e).bind (Entries.insertDotted p k v)) := by
  induction p generalizing q e with
  | nil =>
    cases q with
    | nil =>
      rw [insertDotted_nil, insertDotted_nil]
      apply changeAt_comm
      intro old
      cases old <;> exact .none
    | cons step q =>
      rw [insertDotted_nil, insertDotted_cons]
      apply changeAt_comm
      intro old
      obtain ⟨h, h'⟩ := assignHere_comm_below hv q l w old
      rw [h, h']
      exact .none
  | cons step p ih =>
    cases q with
    | nil =>
      rw [insertDotted_nil, insertDotted_cons]
      apply changeAt_comm
      intro old
      obtain ⟨h, h'⟩ := assignHere_comm_below hw p k v old
      rw [h, h']
      exact .none
    | cons other q =>
      rw [insertDotted_cons, insertDotted_cons]
      exact changeAt_comm (assignBelow_comm (ih q)) _ _ e

structure Document.Alike (d f : Document) : Prop where
  entries : d.entries.Alike f.entries
  current : d.current = f.current

theorem Document.Alike.refl (d : Document) : d.Alike d :=
  ⟨.refl _, rfl⟩

abbrev AlikeDocuments : Option Document → Option Document → Prop :=
  Option.Rel Document.Alike

theorem AlikeDocuments.refl : ∀ d : Option Document, AlikeDocuments d d
  | none => .none
  | some d => .some (.refl d)

theorem AlikeDocuments.trans {c d f : Option Document} (h : AlikeDocuments c d)
    (h' : AlikeDocuments d f) : AlikeDocuments c f := by
  cases h with
  | none => exact h'
  | some hcd =>
    cases h' with
    | some hdf => exact .some ⟨.trans hcd.entries hdf.entries, hcd.current.trans hdf.current⟩

theorem AlikeDocuments.bind {d f : Option Document} (h : AlikeDocuments d f)
    {next : Document → Option Document}
    (hnext : ∀ d f, Document.Alike d f → AlikeDocuments (next d) (next f)) :
    AlikeDocuments (d.bind next) (f.bind next) := by
  cases h with
  | none => exact .none
  | some hdf => exact hnext _ _ hdf

theorem AlikeResults.documents {e f : Option Entries} (h : AlikeResults e f)
    (current : List Key) :
    AlikeDocuments (e.map fun entries => ⟨entries, current⟩)
      (f.map fun entries => ⟨entries, current⟩) := by
  cases h with
  | none => exact .none
  | some hef => exact .some ⟨hef, rfl⟩

def Statement.change (current : List Key) : Statement → Entries → Option Entries
  | .assign path key value => Entries.modifyAt (Entries.insertDotted path key value) current
  | .header path key => Entries.modifyAt (Entries.openTable key) path
  | .arrayHeader path key => Entries.modifyAt (Entries.openElement key) path

def Statement.opens (current : List Key) : Statement → List Key
  | .assign _ _ _ => current
  | .header path key => path ++ [key]
  | .arrayHeader path key => path ++ [key]

theorem Document.add_eq (d : Document) (s : Statement) :
    d.add s = (s.change d.current d.entries).map fun entries =>
      ⟨entries, s.opens d.current⟩ := by
  cases s <;> simp only [Document.add, Statement.change, Statement.opens]
  all_goals
    generalize Entries.modifyAt _ _ d.entries = result
    cases result <;> rfl

theorem Statement.change_respects (s : Statement) (current : List Key) :
    Respects (s.change current) := by
  cases s with
  | assign path key value => exact modifyAt_respects (insertDotted_respects path key value) current
  | header path key => exact modifyAt_respects (openTable_respects key) path
  | arrayHeader path key => exact modifyAt_respects (openElement_respects key) path

theorem Document.Alike.add {d f : Document} (h : d.Alike f) (s : Statement) :
    AlikeDocuments (d.add s) (f.add s) := by
  rw [Document.add_eq, Document.add_eq, h.current]
  exact (s.change_respects f.current _ _ h.entries).documents _

/-- The same statements keep documents alike. -/
theorem Document.Alike.foldlM {d f : Document} (h : d.Alike f) (ss : List Statement) :
    AlikeDocuments (ss.foldlM Document.add d) (ss.foldlM Document.add f) := by
  induction ss generalizing d f with
  | nil => exact .some h
  | cons s ss ih =>
    rw [List.foldlM_cons, List.foldlM_cons]
    exact (h.add s).bind fun _ _ => ih

def Statement.IsPair : Statement → Prop
  | .assign _ _ value => value.IsValue
  | _ => False

theorem Document.add_pair (path : List Key) (key : Key) (value : Node) (e : Entries) :
    Document.add ⟨e, []⟩ (.assign path key value) =
      (Entries.insertDotted path key value e).map fun entries => ⟨entries, []⟩ :=
  Document.add_eq _ _

theorem Document.bind_add_pair (path : List Key) (key : Key) (value : Node)
    (result : Option Entries) :
    ((result.map fun entries => (⟨entries, []⟩ : Document)).bind fun d =>
        d.add (.assign path key value)) =
      (result.bind (Entries.insertDotted path key value)).map fun entries => ⟨entries, []⟩ := by
  cases result with
  | none => rfl
  | some e => exact Document.add_pair path key value e

theorem Document.add_comm {s t : Statement} (hs : s.IsPair) (ht : t.IsPair) {d : Document}
    (hd : d.current = []) :
    AlikeDocuments ((d.add s).bind fun f => f.add t) ((d.add t).bind fun f => f.add s) := by
  obtain ⟨entries, current⟩ := d
  cases hd
  cases s with
  | assign p k v =>
    cases t with
    | assign q l w =>
      rw [add_pair, add_pair, bind_add_pair, bind_add_pair]
      exact (insertDotted_comm hs ht k l p q entries).documents []
    | _ => cases ht
  | _ => cases hs

theorem Document.current_add {s : Statement} (hs : s.IsPair) {d f : Document}
    (h : d.add s = some f) : f.current = d.current := by
  cases s with
  | assign path key value =>
    rw [Document.add_eq] at h
    obtain ⟨e, -, rfl⟩ := Option.map_eq_some_iff.mp h
    rfl
  | _ => cases hs

/-- Assignments in front of the first header may stand in any order. -/
theorem foldlM_perm {ss ts : List Statement} (h : ss.Perm ts) (hs : ∀ s ∈ ss, s.IsPair)
    {d : Document} (hd : d.current = []) :
    AlikeDocuments (ss.foldlM Document.add d) (ts.foldlM Document.add d) := by
  induction h generalizing d with
  | nil => exact .refl _
  | @cons s ss ts _ ih =>
    rw [List.foldlM_cons, List.foldlM_cons]
    cases hadd : d.add s with
    | none => exact .none
    | some f =>
      have hcurrent := Document.current_add (hs s List.mem_cons_self) hadd
      exact ih (fun t ht => hs t (List.mem_cons_of_mem s ht)) (hcurrent.trans hd)
  | swap s t ss =>
    have hcomm := Document.add_comm (hs t List.mem_cons_self)
      (hs s (List.mem_cons_of_mem t List.mem_cons_self)) hd
    have hfold : ∀ s t : Statement, (s :: t :: ss).foldlM Document.add d =
        ((d.add s).bind fun f => f.add t).bind (ss.foldlM Document.add) := by
      intro s t
      rw [List.foldlM_cons, Option.bind_assoc]
      rfl
    rw [hfold, hfold]
    exact hcomm.bind fun _ _ h => h.foldlM ss
  | trans hss _ ih ih' =>
    exact (ih hs hd).trans (ih' (fun t ht => hs t (hss.mem_iff.mpr ht)) hd)

end BlobRetrieval.Toml
