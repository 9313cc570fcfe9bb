import BlobRetrieval.Proofs.Toml.Reordering

/-!
# Statements about different keys

Every statement touches one key of the top-level table. Documents that have no top-level key in
common can therefore be put together: each makes the same of its own keys as it does alone.
-/

set_option autoImplicit false

namespace BlobRetrieval.Toml

def Statement.topKey (current : List Key) : Statement → Key
  | .assign path key _ => (current ++ path).headD key
  | .header path key => path.headD key
  | .arrayHeader path key => path.headD key

def Node.IsTable : Node → Prop
  | .table _ _ => True
  | .tables _ _ => True
  | _ => False

theorem isTable_of_map {result : Option Entries} {wrap : Entries → Node} {node : Node}
    (h : result.map wrap = some node) (hwrap : ∀ e, (wrap e).IsTable) : node.IsTable := by
  obtain ⟨e, -, rfl⟩ := Option.map_eq_some_iff.mp h
  exact hwrap e

theorem isTable_assignBelow {path : List Key} {key : Key} {value node : Node} {old : Option Node}
    (h : assignBelow path key value old = some node) : node.IsTable := by
  unfold assignBelow at h
  split at h
  · exact isTable_of_map h fun _ => trivial
  · exact isTable_of_map h fun _ => trivial
  · split at h
    · cases h
    · exact isTable_of_map h fun _ => trivial
  · split at h
    · cases h
    · exact isTable_of_map h fun _ => trivial
  · cases h

theorem isTable_modifyBelow {change : Entries → Option Entries} {path : List Key} {node : Node}
    {old : Option Node} (h : modifyBelow change path old = some node) : node.IsTable := by
  unfold modifyBelow at h
  split at h
  · exact isTable_of_map h fun _ => trivial
  · cases h
  · exact isTable_of_map h fun _ => trivial
  · exact isTable_of_map h fun _ => trivial
  · cases h

theorem isTable_openTableHere {node : Node} {old : Option Node}
    (h : openTableHere old = some node) : node.IsTable := by
  unfold openTableHere at h
  split at h <;> cases h <;> trivial

theorem isTable_openElementHere {node : Node} {old : Option Node}
    (h : openElementHere old = some node) : node.IsTable := by
  unfold openElementHere at h
  split at h <;> cases h <;> trivial

def Statement.Makes (s : Statement) (act : Option Node → Option Node) : Prop :=
  ∀ old node, act old = some node → node.IsTable ∨ ∃ path key, s = .assign path key node

theorem Statement.change_eq (s : Statement) (current : List Key) :
    ∃ act, s.change current = changeAt (s.topKey current) act ∧ s.Makes act := by
  cases s with
  | assign path key value =>
    cases current with
    | nil =>
      cases path with
      | nil =>
        refine ⟨assignHere value, insertDotted_nil key value, ?_⟩
        intro old node h
        cases old with
        | none =>
          cases h
          exact .inr ⟨[], key, rfl⟩
        | some _ => cases h
      | cons step path =>
        exact ⟨_, insertDotted_cons step path key value, fun _ _ h => .inl (isTable_assignBelow h)⟩
    | cons step current =>
      exact ⟨_, modifyAt_cons _ step current, fun _ _ h => .inl (isTable_modifyBelow h)⟩
  | header path key =>
    cases path with
    | nil => exact ⟨_, openTable_eq key, fun _ _ h => .inl (isTable_openTableHere h)⟩
    | cons step path =>
      exact ⟨_, modifyAt_cons _ step path, fun _ _ h => .inl (isTable_modifyBelow h)⟩
  | arrayHeader path key =>
    cases path with
    | nil => exact ⟨_, openElement_eq key, fun _ _ h => .inl (isTable_openElementHere h)⟩
    | cons step path =>
      exact ⟨_, modifyAt_cons _ step path, fun _ _ h => .inl (isTable_modifyBelow h)⟩

/-- What a statement leaves: the key that it is about has a value, and no other has changed. -/
theorem Statement.change_eq_some {s : Statement} {current : List Key} {e after : Entries}
    (h : s.change current e = some after) :
    ∃ node, (node.IsTable ∨ ∃ path key, s = .assign path key node) ∧
      ∀ key, after.find? key = if s.topKey current = key then some node else e.find? key := by
  obtain ⟨act, hchange, hmakes⟩ := s.change_eq current
  rw [hchange, changeAt_eq_some] at h
  obtain ⟨node, hact, rfl⟩ := h
  exact ⟨node, hmakes _ _ hact, fun key => e.find?_set (s.topKey current) key node⟩

structure Merges (d e f : Entries) : Prop where
  find? : ∀ key, d.find? key = (e.find? key).or (f.find? key)
  apart : ∀ key, e.find? key ≠ none → f.find? key = none

theorem Merges.symm {d e f : Entries} (h : Merges d e f) : Merges d f e where
  find? key := by
    rw [h.find?]
    cases he : e.find? key with
    | none => rw [Option.or_none, Option.none_or]
    | some m => rw [h.apart key (by simp [he]), Option.or_none, Option.none_or]
  apart key hf := by
    by_contra he
    exact hf (h.apart key he)

theorem Merges.nil (e : Entries) : Merges e [] e where
  find? _ := rfl
  apart _ h := absurd rfl h

/-- A statement that one of two tables takes is taken by both together, and only that one
changes. -/
theorem Merges.change {d e f after : Entries} (h : Merges d e f) {s : Statement}
    {current : List Key} (hs : s.change current e = some after)
    (hapart : ∀ key, after.find? key ≠ none → f.find? key = none) :
    ∃ d', s.change current d = some d' ∧ Merges d' after f := by
  obtain ⟨act, hchange, -⟩ := s.change_eq current
  rw [hchange] at hs ⊢
  obtain ⟨node, hact, rfl⟩ := changeAt_eq_some.mp hs
  have hown : d.find? (s.topKey current) = e.find? (s.topKey current) := by
    have hf := hapart (s.topKey current) (by simp [Entries.find?_set])
    rw [h.find?, hf, Option.or_none]
  refine ⟨_, changeAt_eq_some.mpr ⟨node, hown ▸ hact, rfl⟩, ?_, hapart⟩
  intro key
  rw [Entries.find?_set, Entries.find?_set]
  split
  · rw [Option.some_or]
  · exact h.find? key

/-- Keys stay in a document. -/
theorem find?_add {d f : Document} {s : Statement} (h : d.add s = some f) (key : Key)
    (hkey : d.entries.find? key ≠ none) : f.entries.find? key ≠ none := by
  rw [Document.add_eq] at h
  obtain ⟨after, hchange, rfl⟩ := Option.map_eq_some_iff.mp h
  obtain ⟨node, -, hfind⟩ := Statement.change_eq_some hchange
  rw [hfind]
  split
  · exact Option.some_ne_none node
  · exact hkey

theorem find?_foldlM {ss : List Statement} {d f : Document}
    (h : ss.foldlM Document.add d = some f) (key : Key) (hkey : d.entries.find? key ≠ none) :
    f.entries.find? key ≠ none := by
  induction ss generalizing d with
  | nil =>
    cases h
    exact hkey
  | cons s ss ih =>
    rw [List.foldlM_cons] at h
    obtain ⟨next, hadd, hrest⟩ := Option.bind_eq_some_iff.mp h
    exact ih hrest (find?_add hadd key hkey)

def StartOver (ss : List Statement) : Prop :=
  ∀ s ∈ ss.head?, ∀ path key value, s ≠ .assign path key value

theorem Statement.effect_congr {s : Statement} (h : ∀ path key value, s ≠ .assign path key value)
    (current other : List Key) :
    s.change current = s.change other ∧ s.opens current = s.opens other := by
  cases s with
  | assign path key value => exact absurd rfl (h path key value)
  | _ => exact ⟨rfl, rfl⟩

theorem Merges.foldlM {ss : List Statement} {d e after : Document} {f : Entries}
    (hm : Merges d.entries e.entries f) (h : ss.foldlM Document.add e = some after)
    (hcurrent : d.current = e.current ∨ StartOver ss)
    (hapart : ∀ key, after.entries.find? key ≠ none → f.find? key = none) :
    ∃ d', ss.foldlM Document.add d = some d' ∧ Merges d'.entries after.entries f ∧
      (d.current = e.current → d'.current = after.current) := by
  induction ss generalizing d e with
  | nil =>
    cases h
    exact ⟨d, rfl, hm, id⟩
  | cons s ss ih =>
    rw [List.foldlM_cons] at h
    obtain ⟨next, hadd, hrest⟩ := Option.bind_eq_some_iff.mp h
    have hnext : ∀ key, next.entries.find? key ≠ none → f.find? key = none := fun key hkey =>
      hapart key (find?_foldlM hrest key hkey)
    have hsame : s.change d.current = s.change e.current ∧
        s.opens d.current = s.opens e.current := by
      rcases hcurrent with hcurrent | hstart
      · rw [hcurrent]
        exact ⟨rfl, rfl⟩
      · exact Statement.effect_congr (hstart s (by simp)) _ _
    rw [Document.add_eq] at hadd
    obtain ⟨entries, hchange, rfl⟩ := Option.map_eq_some_iff.mp hadd
    obtain ⟨d', hd', hm'⟩ := hm.change hchange hnext
    obtain ⟨last, hlast, hmlast, hc⟩ :=
      ih (d := ⟨d', s.opens d.current⟩) hm' hrest (.inl hsame.2)
    refine ⟨last, ?_, hmlast, fun _ => hc hsame.2⟩
    rw [List.foldlM_cons, Document.add_eq, hsame.1, hd']
    exact hlast

theorem current_foldlM {ss : List Statement} (hss : ∀ s ∈ ss, s.IsPair) {d f : Document}
    (h : ss.foldlM Document.add d = some f) : f.current = d.current := by
  induction ss generalizing d with
  | nil =>
    cases h
    rfl
  | cons s ss ih =>
    rw [List.foldlM_cons] at h
    obtain ⟨next, hadd, hrest⟩ := Option.bind_eq_some_iff.mp h
    rw [ih (fun t ht => hss t (List.mem_cons_of_mem s ht)) hrest]
    exact Document.current_add (hss s List.mem_cons_self) hadd

theorem foldlM_append_eq_some {ss ts : List Statement} {d f : Document} :
    (ss ++ ts).foldlM Document.add d = some f ↔
      ∃ e, ss.foldlM Document.add d = some e ∧ ts.foldlM Document.add e = some f := by
  rw [List.foldlM_append]
  exact Option.bind_eq_some_iff

/-- Statements in front of which assignments stand in another order. -/
theorem foldlM_append_perm {ps qs ss : List Statement} (h : ps.Perm qs)
    (hps : ∀ s ∈ ps, s.IsPair) {f : Document}
    (hf : (ps ++ ss).foldlM Document.add {} = some f) :
    ∃ g, (qs ++ ss).foldlM Document.add {} = some g ∧ f.Alike g := by
  have hrel : AlikeDocuments ((ps ++ ss).foldlM Document.add {})
      ((qs ++ ss).foldlM Document.add {}) := by
    rw [List.foldlM_append, List.foldlM_append]
    exact (foldlM_perm h hps rfl).bind fun _ _ h => h.foldlM ss
  rw [hf] at hrel
  generalize (qs ++ ss).foldlM Document.add {} = result at hrel ⊢
  cases hrel with
  | some halike => exact ⟨_, rfl, halike⟩

/-- A document stays in order if another one without a key of its own is put into it: the
assignments of both in front, the tables behind. -/
theorem foldlM_merged {ps ts qs us mixed : List Statement} {d f : Document}
    (hd : (ps ++ ts).foldlM Document.add {} = some d)
    (hf : (qs ++ us).foldlM Document.add {} = some f)
    (hpairs : ∀ s ∈ ps ++ qs, s.IsPair) (hus : StartOver us)
    (hapart : ∀ key, d.entries.find? key ≠ none → f.entries.find? key = none)
    (hmixed : mixed.Perm (ps ++ qs)) :
    ∃ g, (mixed ++ (ts ++ us)).foldlM Document.add {} = some g := by
  obtain ⟨d₁, hps, hts⟩ := foldlM_append_eq_some.mp hd
  obtain ⟨f₁, hqs, hus'⟩ := foldlM_append_eq_some.mp hf
  have hd₁ : d₁.current = [] :=
    current_foldlM (fun s hs => hpairs s (List.mem_append_left qs hs)) hps
  have hapart₁ : ∀ key, d.entries.find? key ≠ none → f₁.entries.find? key = none := by
    intro key hkey
    by_contra hne
    exact find?_foldlM hus' key hne (hapart key hkey)
  have hapart₂ : ∀ key, f₁.entries.find? key ≠ none → d₁.entries.find? key = none := by
    intro key hkey
    by_contra hne
    exact hkey (hapart₁ key (find?_foldlM hts key hne))
  -- the assignments of the second document, then the tables of both
  obtain ⟨m₁, hm₁, hmerges₁, hcurrent⟩ :=
    (Merges.nil d₁.entries).foldlM (e := {}) hqs (.inl hd₁) hapart₂
  have hf₁ : f₁.current = [] :=
    current_foldlM (fun s hs => hpairs s (List.mem_append_right ps hs)) hqs
  obtain ⟨m₂, hm₂, hmerges₂, -⟩ :=
    hmerges₁.symm.foldlM hts (.inl (by rw [hcurrent hd₁, hf₁, hd₁])) hapart₁
  obtain ⟨m₃, hm₃, -, -⟩ := hmerges₂.symm.foldlM hus' (.inr hus) (by
    intro key hkey
    by_contra hne
    exact hkey (hapart key hne))
  have hall : (ps ++ qs ++ (ts ++ us)).foldlM Document.add {} = some m₃ :=
    foldlM_append_eq_some.mpr ⟨m₁, foldlM_append_eq_some.mpr ⟨d₁, hps, hm₁⟩,
      foldlM_append_eq_some.mpr ⟨m₂, hm₂, hm₃⟩⟩
  obtain ⟨g, hg, -⟩ := foldlM_append_perm hmixed.symm hpairs hall
  exact ⟨g, hg⟩

def AgreeOn (keys : List Key) (d e : Entries) : Prop :=
  ∀ key ∈ keys, d.find? key = e.find? key

theorem AgreeOn.change {keys : List Key} {d e d' e' : Entries} (h : AgreeOn keys d e)
    {s : Statement} {current : List Key} (hd : s.change current d = some d')
    (he : s.change current e = some e') : AgreeOn keys d' e' := by
  obtain ⟨act, hchange, -⟩ := s.change_eq current
  rw [hchange] at hd he
  obtain ⟨m, hm, rfl⟩ := changeAt_eq_some.mp hd
  obtain ⟨n, hn, rfl⟩ := changeAt_eq_some.mp he
  intro key hkey
  rw [Entries.find?_set, Entries.find?_set]
  split
  · next htop =>
    subst htop
    rw [h _ hkey, hn] at hm
    exact hm.symm
  · exact h key hkey

/-- The same statements keep tables in agreement. -/
theorem AgreeOn.foldlM {keys : List Key} {ss : List Statement} {d e d' e' : Document}
    (h : AgreeOn keys d.entries e.entries) (hcurrent : d.current = e.current)
    (hd : ss.foldlM Document.add d = some d') (he : ss.foldlM Document.add e = some e') :
    AgreeOn keys d'.entries e'.entries := by
  induction ss generalizing d e with
  | nil =>
    cases hd
    cases he
    exact h
  | cons s ss ih =>
    rw [List.foldlM_cons] at hd he
    obtain ⟨_, hadd, hd⟩ := Option.bind_eq_some_iff.mp hd
    obtain ⟨_, hadd', he⟩ := Option.bind_eq_some_iff.mp he
    rw [Document.add_eq] at hadd hadd'
    obtain ⟨m, hm, rfl⟩ := Option.map_eq_some_iff.mp hadd
    obtain ⟨n, hn, rfl⟩ := Option.map_eq_some_iff.mp hadd'
    rw [hcurrent] at hm
    exact ih (h.change hm hn) (congrArg s.opens hcurrent) hd he

def topKeys (current : List Key) : List Statement → List Key
  | [] => []
  | s :: ss => s.topKey current :: topKeys (s.opens current) ss

theorem find?_topKeys {ss : List Statement} {d f : Document}
    (h : ss.foldlM Document.add d = some f) {key : Key} (hkey : key ∈ topKeys d.current ss) :
    f.entries.find? key ≠ none := by
  induction ss generalizing d with
  | nil => cases hkey
  | cons s ss ih =>
    rw [List.foldlM_cons] at h
    obtain ⟨next, hadd, hrest⟩ := Option.bind_eq_some_iff.mp h
    rw [Document.add_eq] at hadd
    obtain ⟨after, hchange, rfl⟩ := Option.map_eq_some_iff.mp hadd
    rcases List.mem_cons.mp hkey with rfl | hkey
    · obtain ⟨node, -, hfind⟩ := Statement.change_eq_some hchange
      exact find?_foldlM hrest _ (by simp [hfind])
    · exact ih hrest hkey

/-- Statements about other keys leave the values of some keys as they are. -/
theorem agreeOn_foldlM {keys : List Key} {ss : List Statement} {d f : Document}
    (h : ss.foldlM Document.add d = some f) (hother : ∀ key ∈ topKeys d.current ss, key ∉ keys) :
    AgreeOn keys d.entries f.entries := by
  induction ss generalizing d with
  | nil =>
    cases h
    exact fun _ _ => rfl
  | cons s ss ih =>
    rw [List.foldlM_cons] at h
    obtain ⟨next, hadd, hrest⟩ := Option.bind_eq_some_iff.mp h
    rw [Document.add_eq] at hadd
    obtain ⟨after, hchange, rfl⟩ := Option.map_eq_some_iff.mp hadd
    obtain ⟨node, -, hfind⟩ := Statement.change_eq_some hchange
    have hnext := ih hrest fun key hkey => hother key (List.mem_cons_of_mem _ hkey)
    intro key hkey
    rw [← hnext key hkey, hfind, if_neg]
    intro htop
    exact hother _ List.mem_cons_self (htop ▸ hkey)

theorem topKeys_startOver {ss : List Statement} (h : StartOver ss) (current other : List Key) :
    topKeys current ss = topKeys other ss := by
  cases ss with
  | nil => rfl
  | cons s ss =>
    have hs := h s rfl
    cases s with
    | assign path key value => exact absurd rfl (hs path key value)
    | _ => rfl

/-- What a document says about some keys is not changed by the order of its assignments, nor by
statements about other keys, among the assignments or at the end. -/
theorem agree_of_edit {keys : List Key} {ps ts qs us mixed : List Statement} {d g : Document}
    (hd : (ps ++ ts).foldlM Document.add {} = some d)
    (hg : (mixed ++ (ts ++ us)).foldlM Document.add {} = some g)
    (hpairs : ∀ s ∈ ps ++ qs, s.IsPair) (hus : StartOver us) (hmixed : mixed.Perm (ps ++ qs))
    (hqs : ∀ key ∈ topKeys [] qs, key ∉ keys) (hus' : ∀ key ∈ topKeys [] us, key ∉ keys) :
    ∀ key ∈ keys, AlikeNodes (g.entries.find? key) (d.entries.find? key) := by
  have hmixed' : ∀ s ∈ mixed, s.IsPair := fun s hs => hpairs s (hmixed.mem_iff.mp hs)
  obtain ⟨f, hf, halike⟩ := foldlM_append_perm hmixed hmixed' hg
  obtain ⟨e₂, he₂, hrest⟩ := foldlM_append_eq_some.mp hf
  obtain ⟨e₁, he₁, hqs'⟩ := foldlM_append_eq_some.mp he₂
  obtain ⟨e₃, he₃, hend⟩ := foldlM_append_eq_some.mp hrest
  obtain ⟨d₁, hd₁, hts⟩ := foldlM_append_eq_some.mp hd
  obtain rfl : e₁ = d₁ := Option.some.inj (he₁.symm.trans hd₁)
  have hcurrent₁ : e₁.current = [] :=
    current_foldlM (fun s hs => hpairs s (List.mem_append_left qs hs)) he₁
  have hcurrent₂ : e₂.current = e₁.current :=
    current_foldlM (fun s hs => hpairs s (List.mem_append_right ps hs)) hqs'
  have hadded : AgreeOn keys e₁.entries e₂.entries :=
    agreeOn_foldlM hqs' (by rwa [hcurrent₁])
  have htables : AgreeOn keys d.entries e₃.entries :=
    hadded.foldlM hcurrent₂.symm hts he₃
  have hmore : AgreeOn keys e₃.entries f.entries :=
    agreeOn_foldlM hend (by rwa [topKeys_startOver hus _ []])
  intro key hkey
  rw [htables key hkey, hmore key hkey]
  exact halike.entries.find? key

end BlobRetrieval.Toml
