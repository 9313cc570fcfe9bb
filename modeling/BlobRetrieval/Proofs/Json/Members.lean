import Mathlib.Data.List.Nodup
import Mathlib.Logic.Function.Basic
import BlobRetrieval.Proofs.Json.ByteValues
import BlobRetrieval.Proofs.Json.Skipping

/-!
# What records mean

A record is what its fields are, and where they stand says nothing: a field is the one member
of its name in an object, or the element at its place in an array of as many elements as there
are fields. A draft is told by the values that its fields have been given so far.
-/

set_option autoImplicit false

namespace BlobRetrieval.Json

open Reader

variable {δ α β : Type}

def named (name : List Char) (members : List (List Char × Json)) : List Json :=
  (members.filter fun m => m.1 == name).map Prod.snd

def only? : List Json → Option Json
  | [value] => some value
  | _ => none

def sole (members : List (List Char × Json)) (name : List Char) : Option Json :=
  only? (named name members)

def fields? (names : List (List Char)) : Json → Option (List Char → Option Json)
  | .object members => some (sole members)
  | .array items =>
    if items.length = names.length then some fun name => (names.zip items).lookup name else none
  | _ => none

theorem named_append (name : List Char) (members more : List (List Char × Json)) :
    named name (members ++ more) = named name members ++ named name more := by
  simp [named]

theorem named_cons_self (name : List Char) (value : Json) (members : List (List Char × Json)) :
    named name ((name, value) :: members) = value :: named name members := by
  simp [named]

theorem named_cons_ne {name other : List Char} (h : name ≠ other) (value : Json)
    (members : List (List Char × Json)) :
    named other ((name, value) :: members) = named other members := by
  simp [named, h]

theorem only?_perm {values others : List Json} (h : values.Perm others) :
    only? values = only? others := by
  match values with
  | [] => rw [List.nil_perm.mp h]
  | [value] => rw [List.singleton_perm.mp h]
  | first :: second :: values =>
    have hlength := h.length_eq
    match others with
    | [] => rfl
    | [_] => simp at hlength
    | _ :: _ :: _ => rfl

theorem sole_perm {members others : List (List Char × Json)} (h : members.Perm others)
    (name : List Char) : sole members name = sole others name :=
  only?_perm ((h.filter _).map _)

theorem sole_of_mem {members : List (List Char × Json)} (hn : (members.map Prod.fst).Nodup)
    {m : List Char × Json} (h : m ∈ members) : sole members m.1 = some m.2 := by
  obtain ⟨name, value⟩ := m
  obtain ⟨front, back, rfl⟩ := List.append_of_mem h
  have hmoved : (front ++ (name, value) :: back).Perm ((name, value) :: (front ++ back)) :=
    List.perm_middle
  have hother : name ∉ (front ++ back).map Prod.fst :=
    (List.nodup_cons.mp ((hmoved.map Prod.fst).nodup_iff.mp hn)).1
  have hnone : named name (front ++ back) = [] := by
    rw [named, List.map_eq_nil_iff, List.filter_eq_nil_iff]
    intro m hm hname
    exact hother (List.mem_map.mpr ⟨m, hm, beq_iff_eq.mp hname⟩)
  rw [sole_perm hmoved, sole, named_cons_self, hnone]
  rfl

/-- In whatever order members of different names stand, each of them is the one of its name. -/
theorem sole_listed {members listed : List (List Char × Json)} (h : members.Perm listed)
    (hn : (listed.map Prod.fst).Nodup) : ∀ m ∈ listed, sole members m.1 = some m.2 := by
  intro m hm
  rw [sole_perm h]
  exact sole_of_mem hn hm

theorem only?_mem {values : List Json} {value : Json} (h : only? values = some value) :
    values = [value] := by
  unfold only? at h
  split at h
  · rw [Option.some.inj h]
  · contradiction

theorem sole_append_ne {name other : List Char} (h : name ≠ other) (value : Json)
    (members : List (List Char × Json)) :
    sole (members ++ [(name, value)]) other = sole members other := by
  rw [sole, named_append, named_cons_ne h, sole]
  simp [named]

theorem sole_append_new {name : List Char} {members : List (List Char × Json)}
    (h : named name members = []) (value : Json) :
    sole (members ++ [(name, value)]) = Function.update (sole members) name (some value) := by
  funext other
  by_cases hname : other = name
  · rw [hname, Function.update_self, sole, named_append, h, named_cons_self]
    rfl
  · rw [Function.update_of_ne hname, sole_append_ne (Ne.symm hname)]

/-- A name that comes twice has no value. -/
theorem sole_twice {name : List Char} {members : List (List Char × Json)}
    (h : named name members ≠ []) (value : Json) (more : List (List Char × Json)) :
    sole (members ++ (name, value) :: more) name = none := by
  rw [sole, named_append, named_cons_self]
  cases hn : named name members with
  | nil => exact absurd hn h
  | cons first others => cases others <;> rfl

theorem sole_eq_some {name : List Char} {members more : List (List Char × Json)} {value v : Json}
    (h : sole (members ++ (name, value) :: more) name = some v) : v = value := by
  have hmem : value ∈ named name (members ++ (name, value) :: more) := by
    simp [named_append, named_cons_self]
  rw [only?_mem h, List.mem_singleton] at hmem
  exact hmem.symm

/-- Each place of a list of names belongs to the value at the same place. -/
theorem lookup_zip {names : List (List Char)} (hn : names.Nodup) {values : List Json}
    {name : List Char} {value : Json} (h : (name, value) ∈ names.zip values) :
    (names.zip values).lookup name = some value := by
  induction names generalizing values with
  | nil => simp at h
  | cons first names ih =>
    obtain ⟨hnot, hnodup⟩ := List.nodup_cons.mp hn
    cases values with
    | nil => simp at h
    | cons v values =>
      rw [List.zip_cons_cons, List.lookup_cons]
      rcases List.mem_cons.mp h with heq | hmem
      · rw [(Prod.mk.inj heq).1, (Prod.mk.inj heq).2, beq_self_eq_true]
      · have hne : (name == first) = false := by
          rw [beq_eq_false_iff_ne]
          rintro rfl
          exact hnot (List.of_mem_zip hmem).1
        rw [hne]
        exact ih hnodup hmem

def pending (names : List (List Char)) (given : List Char → Option Json) :
    List Char → Option Json :=
  fun name => if name ∈ names then none else given name

theorem pending_nil (given : List Char → Option Json) : pending [] given = given := by
  funext name
  exact if_neg List.not_mem_nil

theorem update_pending {name : List Char} {names : List (List Char)} (h : name ∉ names)
    (given : List Char → Option Json) :
    Function.update (pending (name :: names) given) name (given name) = pending names given := by
  funext other
  by_cases hname : other = name
  · rw [hname, Function.update_self, pending, if_neg h]
  · rw [Function.update_of_ne hname]
    simp [pending, hname]

structure Field.Fits (f : Field δ) (stage : (List Char → Option Json) → δ) : Prop where
  required : f.optional = false
  isSet : ∀ seen, f.isSet (stage seen) =
    (seen f.name.toList).any fun value => f.isSet (stage fun _ => some value)
  read : ∀ seen value, Means (f.read (stage seen)) value
    (if f.isSet (stage fun _ => some value) then
      some (stage (Function.update seen f.name.toList (some value))) else none)

structure Staged (r : Record δ α) (stage : (List Char → Option Json) → δ) : Prop where
  empty : r.empty = stage fun _ => none
  congr : ∀ {seen other}, (∀ f ∈ r.fields, seen f.name.toList = other f.name.toList) →
    stage seen = stage other
  names : (r.fields.map fun f => f.name.toList).Nodup
  fits : ∀ f ∈ r.fields, f.Fits stage
  finish : ∀ f ∈ r.fields, ∀ seen, f.isSet (stage seen) = false →
    (r.finish (stage seen)).toOption = none

theorem fits_required {stage : (List Char → Option Json) → δ} {name : String}
    {get : δ → Option β} {put : δ → β → δ} {read : Reader β} {sem : Json → Option β}
    (hget : ∀ seen, get (stage seen) = (seen name.toList).bind sem)
    (hput : ∀ seen value b, sem value = some b →
      put (stage seen) b = stage (Function.update seen name.toList (some value)))
    (hread : ∀ value, Means read value (sem value)) :
    (Field.required name get put read).Fits stage where
  required := rfl
  isSet seen := by
    show (get (stage seen)).isSome = (seen name.toList).any fun value => (get (stage _)).isSome
    rw [hget]
    cases seen name.toList with
    | none => rfl
    | some value => simp [hget]
  read seen value := by
    have hmap := means_map (hread value) (put (stage seen))
    show Means (put (stage seen) <$> read) value (if (get (stage _)).isSome then
      some (stage (Function.update seen name.toList (some value))) else none)
    rw [hget]
    cases hvalue : sem value with
    | none => simpa [hvalue] using hmap
    | some b => simpa [hvalue, hput seen value b hvalue] using hmap

theorem unset_required {name : String} {get : δ → Option β} {put : δ → β → δ} {read : Reader β}
    {d : δ} (h : (Field.required name get put read).isSet d = false) : get d = none := by
  simpa using Option.isSome_eq_false_iff.mp h

def made (r : Record δ α) (stage : (List Char → Option Json) → δ)
    (seen : List Char → Option Json) : Option α :=
  (r.finish (stage seen)).toOption

def Tracks (r : Record δ α) (stage : (List Char → Option Json) → δ)
    (done : List (List Char × Json)) : Prop :=
  ∀ f ∈ r.fields, f.isSet (stage (sole done)) = false → named f.name.toList done = []

def Record.memberNamed (r : Record δ α) (rounds : Nat) (draft : δ) (name : List Char) :
    Reader δ :=
  match r.fields.find? fun f => f.name.toList == name with
  | some field =>
    if field.isSet draft then failUnplaced (.duplicateField field.name)
    else do
      colon
      r.members rounds false (← field.read draft)
  | none => do
    colon
    skipValue rounds
    r.members rounds false draft

theorem Record.members_succ (r : Record δ α) (rounds : Nat) (first : Bool) (draft : δ) :
    r.members (rounds + 1) first draft = moreMembers first >>= fun more =>
      if more then Record.key >>= r.memberNamed rounds draft else pure draft :=
  rfl

theorem on_key {name : List Char} {body : Bytes} (h : StringText name body) (rest : Bytes) :
    on Record.key (34 :: (body ++ 34 :: rest)) = (.ok name, rest) :=
  (on_bind_ok (on_advance _)).trans (on_stringText h rest)

theorem gives_finished (r : Record δ α) (draft : δ) (text : Bytes) :
    Gives (r.finished draft) text (r.finish draft).toOption text := by
  rw [Record.finished]
  cases r.finish draft with
  | error cause => exact (refuses_failUnplaced _).gives _ _
  | ok a => exact gives_pure a text

theorem Line.length_ahead_cons (first : Bool) (closing : UInt8) (last : Bytes) (l : Line)
    (lines : List Line) :
    l.text.length + (Line.more closing last lines).length ≤
      (Line.ahead first closing last (l :: lines)).length := by
  cases first <;> simp only [Line.ahead, Line.enclosed, Line.more, if_true, Bool.false_eq_true,
    if_false, List.length_append, List.length_cons] <;> omega

theorem Line.length_ahead_pos (first : Bool) (closing : UInt8) (last : Bytes) :
    0 < (Line.ahead first closing last []).length := by
  cases first <;> simp [Line.ahead, Line.enclosed, Line.more]

section Staged

variable {r : Record δ α} {stage : (List Char → Option Json) → δ} (hr : Staged r stage)

include hr

/-- Nothing is made of an object with two members of one field. -/
theorem made_twice {f : Field δ} (hf : f ∈ r.fields) {done : List (List Char × Json)}
    (h : named f.name.toList done ≠ []) (value : Json) (more : List (List Char × Json)) :
    made r stage (sole (done ++ (f.name.toList, value) :: more)) = none := by
  apply hr.finish f hf
  rw [(hr.fits f hf).isSet, sole_twice h]
  rfl

/-- Nothing is made of an object with a member that its field does not take. -/
theorem made_refused {f : Field δ} (hf : f ∈ r.fields) {value : Json}
    (h : f.isSet (stage fun _ => some value) = false) (done more : List (List Char × Json)) :
    made r stage (sole (done ++ (f.name.toList, value) :: more)) = none := by
  apply hr.finish f hf
  rw [(hr.fits f hf).isSet]
  cases hsole : sole (done ++ (f.name.toList, value) :: more) f.name.toList with
  | none => rfl
  | some v =>
    rw [sole_eq_some hsole]
    exact h

theorem field_eq {f g : Field δ} (hf : f ∈ r.fields) (hg : g ∈ r.fields)
    (h : g.name.toList = f.name.toList) : g = f :=
  List.inj_on_of_nodup_map hr.names hg hf h

theorem tracks_unknown {name : List Char} (h : ∀ f ∈ r.fields, name ≠ f.name.toList)
    (value : Json) {done : List (List Char × Json)} (hd : Tracks r stage done) :
    stage (sole (done ++ [(name, value)])) = stage (sole done) ∧
      Tracks r stage (done ++ [(name, value)]) := by
  have hsame : stage (sole (done ++ [(name, value)])) = stage (sole done) :=
    hr.congr fun f hf => sole_append_ne (h f hf) value done
  refine ⟨hsame, fun f hf hunset => ?_⟩
  rw [hsame] at hunset
  rw [named_append, hd f hf hunset, named_cons_ne (h f hf)]
  rfl

theorem tracks_taken {f : Field δ} (hf : f ∈ r.fields) {value : Json}
    (htaken : f.isSet (stage fun _ => some value) = true) {done : List (List Char × Json)}
    (hnew : named f.name.toList done = []) (hd : Tracks r stage done) :
    Tracks r stage (done ++ [(f.name.toList, value)]) := by
  intro g hg hunset
  have hne : f.name.toList ≠ g.name.toList := by
    intro h
    rw [field_eq hr hf hg h.symm, (hr.fits f hf).isSet, sole_append_new hnew,
      Function.update_self, Option.any_some, htaken] at hunset
    contradiction
  rw [(hr.fits g hg).isSet, sole_append_ne hne, ← (hr.fits g hg).isSet] at hunset
  rw [named_append, hd g hg hunset, named_cons_ne hne]
  rfl

/-- A member is passed over if no field has its name. Otherwise it is taken, unless its field has
a value already or does not take this one; nothing is made of the object then. -/
theorem gives_member {m : Member} (hm : m.Spaced) (ht : Spells m.value m.text) {left : Bytes}
    (hleft : Apart left) {rounds : Nat} (hn : m.text.length ≤ rounds)
    {done : List (List Char × Json)} (hd : Tracks r stage done)
    (more : List (List Char × Json)) (rest : Bytes)
    (hrest : Tracks r stage (done ++ [(m.name, m.value)]) →
      Gives (within closeObject
          (r.members rounds false (stage (sole (done ++ [(m.name, m.value)]))) >>= r.finished))
        left (made r stage (sole (done ++ (m.name, m.value) :: more))) rest) :
    Gives (within closeObject (r.memberNamed rounds (stage (sole done)) m.name >>= r.finished))
      (m.beforeColon ++ 58 :: (m.afterColon ++ (m.text ++ left)))
      (made r stage (sole (done ++ (m.name, m.value) :: more))) rest := by
  obtain ⟨-, hcolon, hafter⟩ := hm
  rw [Record.memberNamed]
  cases hfind : r.fields.find? fun f => f.name.toList == m.name with
  | none =>
    -- A member of no field is passed over.
    have hunknown : ∀ f ∈ r.fields, m.name ≠ f.name.toList := by
      intro f hf h
      have hne := List.find?_eq_none.mp hfind f hf
      simp [h] at hne
    obtain ⟨hsame, htracks⟩ := tracks_unknown hr hunknown m.value hd
    simp only [bind_assoc]
    refine gives_within_after (on_colon hcolon _) ?_
    refine gives_within_after (on_skipValue hafter ht hleft hn) ?_
    rw [← hsame]
    exact hrest htracks
  | some f =>
    have hf : f ∈ r.fields := List.mem_of_find?_eq_some hfind
    have hname : f.name.toList = m.name := by simpa using List.find?_some hfind
    rw [← hname] at hrest ⊢
    simp only
    by_cases hset : f.isSet (stage (sole done)) = true
    · -- A field that has been set is there already, and nothing is its only value any more.
      have hthere : named f.name.toList done ≠ [] := by
        intro hnone
        rw [(hr.fits f hf).isSet, sole, hnone] at hset
        contradiction
      rw [made_twice hr hf hthere, if_pos hset]
      exact gives_within_none
        (gives_bind_none ((refuses_failUnplaced _).gives _ rest) _ rest) rest
    · have hnew := hd f hf (Bool.eq_false_iff.mpr hset)
      have hread := (hr.fits f hf).read (sole done) m.value m.afterColon m.text _ hafter ht hleft
      simp only [if_neg hset, bind_assoc]
      refine gives_within_after (on_colon hcolon _) ?_
      by_cases htaken : f.isSet (stage fun _ => some m.value) = true
      · rw [if_pos htaken, ← sole_append_new hnew] at hread
        exact gives_within_after (gives_some.mp hread) (hrest (tracks_taken hr hf htaken hnew hd))
      · rw [if_neg htaken] at hread
        rw [made_refused hr hf (Bool.eq_false_iff.mpr htaken)]
        exact gives_within_none (gives_bind_none hread _ rest) rest

/-- The members of an object are read one after another. A field is taken at its first member, so
this has to be the only one. -/
theorem gives_members {last : Bytes} (hl : Blanks last) (rest : Bytes) {members : List Member}
    (hs : ∀ m ∈ members, m.Spaced) (hk : ∀ m ∈ members, StringText m.name m.key)
    (ht : ∀ m ∈ members, Spells m.value m.text) (rounds : Nat) (first : Bool)
    (hn : (Line.ahead first 125 last (members.map Member.line)).length ≤ rounds)
    (done : List (List Char × Json)) (hd : Tracks r stage done) :
    Gives (within closeObject (r.members rounds first (stage (sole done)) >>= r.finished))
      (Line.ahead first 125 last (members.map Member.line) ++ rest)
      (made r stage (sole (done ++ members.map fun m => (m.name, m.value)))) rest := by
  -- The names that have come so far are those of the members that are done.
  induction members generalizing rounds first done with
  | nil =>
    have hpos := Line.length_ahead_pos first 125 last
    rw [List.map_nil] at hn ⊢
    obtain ⟨rounds, rfl⟩ : ∃ k, rounds = k + 1 := ⟨rounds - 1, by omega⟩
    rw [Record.members_succ, bind_assoc, List.map_nil, List.append_nil]
    refine gives_within_after (on_moreMembers_end first rest hl) ?_
    have hgives := gives_within (gives_finished r (stage (sole done)) (125 :: rest))
      (gives_some.mpr (on_closeObject blanks_nil rest))
    simpa [made] using hgives
  | cons m members ih =>
    have hlength := Line.length_ahead_cons first 125 last m.line (members.map Member.line)
    have hvalue : m.text.length < m.line.text.length := by
      simp only [Member.line, List.length_cons, List.length_append]
      omega
    have hspaced : ∀ l ∈ members.map Member.line, l.Spaced :=
      List.forall_mem_map.mpr fun n hn => (hs n (List.mem_cons_of_mem m hn)).1
    have hmem : m ∈ m :: members := List.mem_cons_self
    rw [List.map_cons] at hn
    obtain ⟨rounds, rfl⟩ : ∃ k, rounds = k + 1 := ⟨rounds - 1, by omega⟩
    rw [Record.members_succ, bind_assoc, List.map_cons, List.map_cons]
    refine gives_within_after (on_moreMembers_next first rest (hs m hmem).1 _ rfl) ?_
    simp only [Member.line, List.cons_append, List.append_assoc, if_true, bind_assoc]
    refine gives_within_after (on_key (hk m hmem) _) ?_
    refine gives_member hr (hs m hmem) (ht m hmem) (apart_more (.inr rfl) hl hspaced rest)
      (by omega) hd _ rest fun htracks => ?_
    have hrest := ih (fun n hn => hs n (List.mem_cons_of_mem m hn))
      (fun n hn => hk n (List.mem_cons_of_mem m hn))
      (fun n hn => ht n (List.mem_cons_of_mem m hn)) rounds false
      (by rw [Line.ahead, if_neg Bool.false_ne_true]; omega) (done ++ [(m.name, m.value)]) htracks
    rwa [List.append_assoc] at hrest

/-- The elements of an array are read one after another, each as the field at its place. What is
still to come has not gone into the draft. -/
theorem gives_positional {last : Bytes} (hl : Blanks last) (rest : Bytes)
    {fields : List (Field δ)} (hf : ∀ f ∈ fields, f ∈ r.fields)
    (hnames : (fields.map fun f => f.name.toList).Nodup) {items : List Item}
    (hs : ∀ i ∈ items, i.line.Spaced) (ht : ∀ i ∈ items, Spells i.value i.line.text)
    (position : Nat) (hp : position = 0 → fields ≠ []) (given : List Char → Option Json)
    (hg : ∀ p ∈ fields.zip items, given p.1.name.toList = some p.2.value) :
    Gives (within closeArray (r.positional fields position
        (stage (pending (fields.map fun f => f.name.toList) given)) >>= r.finished))
      (Line.ahead (decide (position = 0)) 93 last (items.map (·.line)) ++ rest)
      (if items.length = fields.length then made r stage given else none) rest := by
  -- The fields that are left are the pending ones, so each element settles one of them.
  induction fields generalizing items position with
  | nil =>
    have hmore : Line.ahead (decide (position = 0)) 93 last (items.map (·.line)) =
        Line.more 93 last (items.map (·.line)) := by
      rw [Line.ahead, if_neg]
      simpa using hp
    have hgives := gives_within (gives_finished r (stage given) _)
      (gives_closeArray hl (List.forall_mem_map.mpr hs) rest)
    rw [hmore, Record.positional, pure_bind, List.map_nil, pending_nil]
    cases items with
    | nil => simpa [made] using hgives
    | cons i items => simpa using hgives
  | cons f fields ih =>
    obtain ⟨hnot, hnodup⟩ := List.nodup_cons.mp hnames
    have hmem : f ∈ r.fields := hf f List.mem_cons_self
    rw [Record.positional, bind_assoc, List.map_cons]
    cases items with
    | nil =>
      refine gives_within_after (on_moreElements_end _ rest hl) ?_
      simp only [Bool.false_eq_true, if_false, (hr.fits f hmem).required]
      exact gives_within_none
        (gives_bind_none ((refuses_failUnplaced _).gives _ rest) _ rest) rest
    | cons i items =>
      have hgiven : given f.name.toList = some i.value := hg (f, i) List.mem_cons_self
      obtain ⟨hmore, hitem⟩ := gives_element ((hr.fits f hmem).read _) hl rest
        (decide (position = 0)) hs (ht i List.mem_cons_self)
      rw [← hgiven, update_pending hnot given] at hitem
      refine gives_within_after hmore ?_
      simp only [if_true, bind_assoc]
      by_cases htaken : f.isSet (stage fun _ => some i.value) = true
      · rw [hgiven, if_pos htaken] at hitem
        refine gives_within_after (gives_some.mp hitem) ?_
        have hrest := ih (fun g hg => hf g (List.mem_cons_of_mem f hg)) hnodup
          (fun j hj => hs j (List.mem_cons_of_mem i hj))
          (fun j hj => ht j (List.mem_cons_of_mem i hj)) (position + 1) (by omega)
          fun p hp => hg p (List.mem_cons_of_mem _ hp)
        simpa [Line.ahead] using hrest
      · rw [hgiven, if_neg htaken] at hitem
        have hnone : made r stage given = none := by
          apply hr.finish f hmem
          rw [(hr.fits f hmem).isSet, hgiven]
          exact Bool.eq_false_iff.mpr htaken
        rw [hnone, ite_self]
        exact gives_within_none (gives_bind_none hitem _ rest) rest

/-- What a record is follows from the values of its fields, whatever stands behind it. -/
theorem gives_record (hfields : r.fields ≠ []) {value : Json} {before text : Bytes}
    (hb : Blanks before) (ht : Spells value text) (rest : Bytes) :
    Gives r.read (before ++ (text ++ rest))
      ((value.fields? (r.fields.map fun f => f.name.toList)).bind (made r stage)) rest := by
  have hother {b : UInt8} {bs : Bytes} (hfront : text = b :: bs) (hblank : isBlank b = false)
      (harray : b ≠ 91) (hobject : b ≠ 123) :
      Gives r.read (before ++ (text ++ rest)) none rest := by
    rw [hfront, List.cons_append, Record.read]
    refine gives_after (on_peekToken hb hblank _) ?_
    simp only [if_neg harray, if_neg hobject]
    exact (refuses_refuse _ b).gives _ _
  cases ht with
  | array items last hl hs ht =>
    have hempty : r.empty = stage (pending (r.fields.map fun f => f.name.toList) fun name =>
        ((r.fields.map fun f => f.name.toList).zip (items.map (·.value))).lookup name) := by
      rw [hr.empty]
      exact hr.congr fun f hf => (if_pos (List.mem_map_of_mem hf)).symm
    have hgives := gives_positional hr hl rest (fun f hf => hf) hr.names hs ht 0
      (fun _ => hfields)
      (fun name => ((r.fields.map fun f => f.name.toList).zip (items.map (·.value))).lookup name)
      fun p hp => by
        apply lookup_zip hr.names
        rw [List.zip_map]
        exact List.mem_map_of_mem hp
    rw [List.cons_append, Record.read]
    refine gives_after (on_peekToken hb rfl _) (gives_after (on_advance _) ?_)
    rw [hempty, fields?, List.length_map, List.length_map]
    by_cases hlength : items.length = r.fields.length
    · rw [if_pos hlength] at hgives ⊢
      exact hgives
    · rw [if_neg hlength] at hgives ⊢
      exact hgives
  | object members last hl hs hk ht =>
    have hgives := gives_members hr hl rest hs hk ht
      ((Line.enclosed 125 last (members.map Member.line) ++ rest).length + 1) true
      (by rw [Line.ahead, if_pos rfl, List.length_append]; omega) []
      fun _ _ _ => rfl
    have hempty : r.empty = stage (sole []) := hr.empty
    rw [List.cons_append, Record.read]
    refine gives_after (on_peekToken hb rfl _) (gives_after (on_advance _) ?_)
    rw [hempty]
    exact gives_within_after (on_budget _) hgives
  | number literal hn =>
    obtain ⟨b, bs, hfront, hblank, harray, hobject⟩ := numberText_scalar hn
    exact hother hfront hblank harray hobject
  | _ => exact hother rfl rfl (by decide) (by decide)

theorem means_record (hfields : r.fields ≠ []) (value : Json) :
    Means r.read value
      ((value.fields? (r.fields.map fun f => f.name.toList)).bind (made r stage)) :=
  fun _ _ rest hb ht _ => gives_record hr hfields hb ht rest

/-- The same, where it is known what the fields make. -/
theorem means_made (hfields : r.fields ≠ []) {f : (List Char → Option Json) → Option α}
    (hf : ∀ given, made r stage given = f given) (value : Json) :
    Means r.read value ((value.fields? (r.fields.map fun f => f.name.toList)).bind f) := by
  rw [← funext hf]
  exact means_record hr hfields value

end Staged

end BlobRetrieval.Json
